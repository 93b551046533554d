/-
How long it takes to take the module down.

`OnAmxxDetach`, the guard and the destructors loop over the handles: `RemoveAllTasks` visits
each, the map is cleared entry by entry, and cleared again by whoever comes later.
`stepsLeft` is the number of steps to the end.  Each of these steps takes one off it and
nothing else that can happen changes it, so a teardown that has begun takes that many
steps, whatever libcurl and the plugins do in between; and the next one is always possible.
-/
import AmxxCurl.Lib.Progress
import AmxxCurl.Amx.Teardown

namespace AmxxCurl

open Transfers (Records)

namespace AmxCurlController

variable {m m' : AmxCurlController} {a : Action}

/-- The number of handles. -/
def handleCount (m : AmxCurlController) : Nat := m.amxCurl.keys.card

/-- The number of steps to the end, the exit of the process among them. -/
def stepsLeft (m : AmxCurlController) : Nat :=
  match m.phase with
  | .running | .draining => 0
  | .removing .onAmxxDetach todo => todo.length + m.handleCount + 8
  | .removing .detachGuard todo => todo.length + m.handleCount + 4
  | .removing .destructor todo => todo.length + m.handleCount + 3
  | .clearing .onAmxxDetach todo => todo.length + 7
  | .clearing .detachGuard todo => todo.length + 3
  | .clearing .destructor todo => todo.length + 2
  | .shutdown .onAmxxDetach => 6
  | .shutdown _ => 1
  | .globalCleanup => 5
  | .detached => m.handleCount + 4
  | .exiting => if m.isDetached then m.handleCount + 3 else 2 * m.handleCount + 5
  | .gone => 0

/-- The steps that are counted. -/
def Action.isLast : Action → Bool
  | .exit | .teardown _ => true
  | _ => false

theorem Walks.length {order : List AmxCurlHandle} (ho : m.Walks order) :
    order.length = m.handleCount := by
  unfold handleCount
  rw [← ho.2, List.toFinset_card_of_nodup ho.1]

/-- There is an order to walk the map in. -/
theorem walks_toList (m : AmxCurlController) : m.Walks m.amxCurl.keys.toList :=
  ⟨Finset.nodup_toList _, Finset.toList_toFinset _⟩

theorem handleCount_empty (h : ∀ n, m.amxCurl.lookup n = none) : m.handleCount = 0 := by
  unfold handleCount
  rw [Finset.card_eq_zero, Finset.eq_empty_iff_forall_notMem]
  intro n hn
  have hmem : n ∈ m.amxCurl := Finmap.mem_keys.mp hn
  rw [← Finmap.lookup_isSome, h n] at hmem
  simp at hmem

/-! ### One step -/

theorem removeTransfer_handleCount (n : AmxCurlHandle) :
    (m.removeTransfer n).handleCount = m.handleCount := by
  unfold removeTransfer
  split
  · rfl
  · split <;> rfl

/-- **A step of the teardown takes one off.** -/
theorem tearsDown_stepsLeft {order : List AmxCurlHandle} (hr : Records m.transfers)
    (hn : m.TearsDown order m') : m'.stepsLeft + 1 = m.stepsLeft := by
  cases hn with
  | visit actor n todo hph =>
      have hcount := removeTransfer_handleCount (m := m) n
      unfold stepsLeft
      rw [hph]
      cases actor <;> simp only [List.length_cons, handleCount] at hcount ⊢ <;> omega
  | clear actor hph ho =>
      have hlen := ho.length
      unfold stepsLeft
      rw [hph]
      cases actor <;> simp only [List.length_nil, handleCount] at hlen ⊢
      all_goals omega
  | drop actor n todo hph =>
      unfold stepsLeft
      rw [hph]
      cases actor <;> exact Nat.add_right_comm ..
  | cleared hph =>
      unfold stepsLeft
      rw [hph]
      rfl
  | clearedByGuard hph ho =>
      have hnone : m.handleCount = 0 := handleCount_empty fun n => by
        cases hlook : m.amxCurl.lookup n with
        | none => rfl
        | some o => exact absurd (hr.clearing hph hlook) List.not_mem_nil
      have hlen := ho.length
      unfold stepsLeft
      rw [hph]
      simp only [List.length_nil]
      omega
  | destructed hph =>
      unfold stepsLeft
      rw [hph]
      rfl
  | shutdown hph =>
      unfold stepsLeft
      rw [hph]
  | shutdownLast actor hph ha =>
      unfold stepsLeft
      rw [hph]
      cases actor with
      | onAmxxDetach => exact absurd rfl ha
      | _ => rfl
  | globalCleanup hph =>
      have hnone : m.handleCount = 0 := handleCount_empty (hr.emptied (by
        show m.phase.IsOver
        rw [hph]
        trivial))
      unfold stepsLeft
      rw [hph]
      show m.handleCount + 4 + 1 = 5
      omega
  | destruct hph hd ho =>
      have hleft : m.stepsLeft = m.handleCount + 3 := by
        unfold stepsLeft
        rw [hph]
        exact if_pos hd
      rw [hleft, ← ho.length]
      rfl
  | guard hph hd ho =>
      have hleft : m.stepsLeft = 2 * m.handleCount + 5 := by
        unfold stepsLeft
        rw [hph]
        exact if_neg (by simp [hd])
      have hlen := ho.length
      rw [hleft]
      show order.length + m.handleCount + 4 + 1 = _
      omega

/-! ### Every step -/

/-- The drain loop is over, or there was none. -/
theorem late_stack {tr : List Action} (hrun : machine.Run NativesBeforeDetach tr m)
    (hlate : ¬m.phase.IsOpen) : m.stack = [] := by
  by_cases hd : m.isDetached = true
  · exact run_stack hrun hd
  · -- the process exits and nobody has set the flag
    by_contra hne
    rcases (run_reachable hrun).2 hne with hph | hph | hph
    · exact hlate (Or.inl hph)
    · exact hlate (Or.inr hph)
    · have hflags := (run_records hrun).flags
      unfold Transfers.Flags at hflags
      rw [show m.transfers.phase = m.phase from rfl, hph] at hflags
      exact hd hflags.1

/-- Callbacks and options concern none of the handles. -/
theorem stepsLeft_minor (hm : Minor m m') : m'.stepsLeft = m.stepsLeft := by
  have hk := hm.keeps
  have hphase : m'.phase = m.phase := congrArg Transfers.phase hk
  have hcount : m'.handleCount = m.handleCount :=
    congrArg (fun t : Transfers => t.handles.keys.card) hk
  have hd : m'.isDetached = m.isDetached := congrArg Transfers.isDetached hk
  unfold stepsLeft
  rw [hphase, hcount, hd]

/-- What can happen late costs what it takes off, and nothing else takes anything off. -/
theorem next_stepsLeft (hr : Records m.transfers) (hstack : m.stack = [])
    (hlate : ¬m.phase.IsOpen) (hc : NativesBeforeDetach m a) (hn : m.next a = some m') :
    ¬m'.phase.IsOpen ∧ (if a.isLast then 1 else 0) + m'.stepsLeft = m.stepsLeft := by
  have hempty : ∀ {f : Frame} {rest : List Frame}, m.stack ≠ f :: rest := by
    intro f rest hs
    rw [hstack] at hs
    simp at hs
  have hno : ∀ {b : Action}, b.isNative = true → NativesBeforeDetach m b → ¬m.AtPawn := by
    intro b hb hcb hp
    -- with nothing on the stack Pawn code runs before the exit only
    have hd : m.isDetached = false := hcb hb
    unfold AtPawn at hp
    rw [hstack] at hp
    rcases hp with hp | hp
    · exact hlate (Or.inl hp)
    · have hflags := hr.flags
      unfold Transfers.Flags at hflags
      rw [show m.transfers.phase = m.phase from rfl, hp] at hflags
      exact absurd (hflags.1.symm.trans hd) (by simp)
  cases next_fires hn with
  | load b hfree => exact ⟨hlate, Nat.zero_add _⟩
  | unload b q hq hs => exact ⟨hlate, Nat.zero_add _⟩
  | easyInit b q reply hq hp hfree => exact absurd hp (hno rfl hc)
  | setCallback n c reply codes hp hfree => exact absurd hp (hno rfl hc)
  | setOption n d hp => exact absurd hp (hno rfl hc)
  | easyPerform n found fun_ dataLen hp => exact absurd hp (hno rfl hc)
  | easyCleanup n hp => exact absurd hp (hno rfl hc)
  | easyReset n hp => exact absurd hp (hno rfl hc)
  | addReturn ok o p rest hs hok => exact absurd hs hempty
  | removeReturn f o p res rest hs hf => exact absurd hs hempty
  | postDone e p res hatt hp => exact ⟨hlate, Nat.zero_add _⟩
  | callback o k hlib he =>
      have hm : Minor m (m.callback o k) := .callback
      have hphase : (m.callback o k).phase = m.phase := congrArg Transfers.phase hm.keeps
      rw [hphase]
      exact ⟨hlate, (Nat.zero_add _).trans (stepsLeft_minor hm)⟩
  | socketActionReturn rest hs => exact absurd hs hempty
  | readMessage rest hs hm => exact absurd hs hempty
  | checkMultiInfoReturn rest hs hm => exact absurd hs hempty
  | completionReturn result b q f data rest hs => exact absurd hs hempty
  | dataCallbackReturn result o c q expected rest hs => exact absurd hs hempty
  | poll hs hm hph => exact absurd hph hlate
  | sweep order hs hph ho => exact absurd (Or.inl hph) hlate
  | onAmxxDetach hs hph => exact absurd (Or.inl hph) hlate
  | drained timedOut order hs hph hdone ho => exact absurd (Or.inr hph) hlate
  | exit hs hph =>
      have hph := hph.resolve_left fun hph => hlate (Or.inl hph)
      have hflags := hr.flags
      unfold Transfers.Flags at hflags
      rw [show m.transfers.phase = m.phase from rfl, hph] at hflags
      have hd : m.isDetached = true := hflags.1
      refine ⟨by simp [Phase.IsOpen], ?_⟩
      have hleft : ({ m with phase := .exiting } : AmxCurlController).stepsLeft =
          m.handleCount + 3 := if_pos hd
      rw [hleft]
      unfold stepsLeft
      rw [hph]
      show 1 + (m.handleCount + 3) = m.handleCount + 4
      omega
  | teardown order m' hs hdown =>
      refine ⟨?_, ?_⟩
      · cases hdown <;> simp [Phase.IsOpen]
      · rw [← tearsDown_stepsLeft hr hdown]
        exact Nat.add_comm ..

/-- The next step can be taken. -/
theorem teardown_enabled (hstack : m.stack = []) (hlate : ¬m.phase.IsOpen)
    (hd : m.phase ≠ .detached) (hgone : m.phase ≠ .gone) :
    ∃ m', m.next (.teardown m.amxCurl.keys.toList) = some m' := by
  have hwalk := m.walks_toList
  have hteardown : ∃ m', m.teardown m.amxCurl.keys.toList = some m' := by
    unfold teardown
    cases hph : m.phase with
    | running => exact absurd (Or.inl hph) hlate
    | draining => exact absurd (Or.inr hph) hlate
    | removing actor todo =>
        cases todo with
        | nil => exact ⟨_, if_pos hwalk⟩
        | cons n todo => exact ⟨_, rfl⟩
    | clearing actor todo =>
        cases todo with
        | nil =>
            cases actor with
            | onAmxxDetach => exact ⟨_, rfl⟩
            | detachGuard => exact ⟨_, if_pos hwalk⟩
            | destructor => exact ⟨_, rfl⟩
        | cons n todo => exact ⟨_, rfl⟩
    | shutdown actor => cases actor <;> exact ⟨_, rfl⟩
    | globalCleanup => exact ⟨_, rfl⟩
    | detached => exact absurd hph hd
    | exiting =>
        dsimp only
        rw [if_pos hwalk]
        split
        · exact ⟨_, rfl⟩
        · exact ⟨_, rfl⟩
    | gone => exact absurd hph hgone
  obtain ⟨m', hm'⟩ := hteardown
  refine ⟨m', ?_⟩
  simp only [next]
  rw [if_pos hstack]
  exact hm'

theorem stepsLeft_eq_zero (hlate : ¬m.phase.IsOpen) : m.stepsLeft = 0 ↔ m.phase = .gone := by
  unfold stepsLeft
  cases hph : m.phase with
  | running => exact absurd (Or.inl hph) hlate
  | draining => exact absurd (Or.inr hph) hlate
  | removing actor todo => cases actor <;> simp
  | clearing actor todo => cases actor <;> simp
  | shutdown actor => cases actor <;> simp
  | exiting =>
      dsimp only
      split <;> simp
  | _ => simp

/-- What is ahead where the drain loop ends, and where the process exits without one. -/
theorem stepsLeft_begin {tr : List Action} (hrun : machine.Run NativesBeforeDetach tr m)
    (ho : m.phase.IsOpen) (hn : m.next a = some m') (hlate : ¬m'.phase.IsOpen) :
    m'.stepsLeft = if a = .exit then 2 * m.handleCount + 5 else 2 * m.handleCount + 8 := by
  have hr := run_records hrun
  have hs := (run_reachable hrun).2
  obtain ⟨hstep, -⟩ := next_refines (N := Phase.IsLive) hr.flags hs (fun _ hp => hp.isLive hs)
    (Or.inl rfl) hn
  rcases hstep with hops | ⟨-, -, hend⟩
  · rw [show m'.phase = m.phase from hops.phase] at hlate
    exact absurd ho hlate
  · cases next_fires hn with
    | onAmxxDetach hs hph => exact absurd (Or.inr rfl) hlate
    | drained timedOut order hs hph hc hwalk =>
        have hcount : ({ (if m.isAllTransfersCompleted then m else m.mf .printSrvConsole) with
            isDetached := true
            phase := .removing .onAmxxDetach order } : AmxCurlController).handleCount =
            m.handleCount := by
          show Finset.card (if m.isAllTransfersCompleted then m else
            m.mf .printSrvConsole).amxCurl.keys = _
          split <;> rfl
        have hlen := hwalk.length
        have hne : Action.drained timedOut order ≠ .exit := by simp
        rw [if_neg hne]
        unfold stepsLeft
        rw [hcount]
        show order.length + m.handleCount + 8 = _
        omega
    | exit hs hph =>
        have hd : ¬m.isDetached = true := fun hd => not_open hr hd ho
        rw [if_pos rfl]
        exact if_neg hd
    | teardown order m' hs hdown =>
        -- there is no such step while frames run, or the drain loop does
        rcases ho with ho | ho <;> exact absurd hn (by simp [next, teardown, ho])
    | _ => exact absurd hend (by simp [Action.isEnding])

/--
**Once begun, the teardown takes a number of steps that is known, and nothing stops it.**
With `n` handles there are `2 n + 8` steps from the end of the drain loop, the exit of the
process among them, and `2 n + 5` from an exit without one.  Whatever callbacks, messages
and plugins come in between, the steps taken and the steps left add up to that, and the next
one is possible until the module is gone.
-/
theorem teardown_counts_down {tr tr' : List Action} {m₁ : AmxCurlController}
    (hrun : machine.Run NativesBeforeDetach tr m) (ho : m.phase.IsOpen)
    (hn : m.next a = some m₁) (hlate : ¬m₁.phase.IsOpen)
    (hrun' : machine.Run NativesBeforeDetach (tr ++ a :: tr') m') :
    tr'.countP Action.isLast + m'.stepsLeft =
      (if a = .exit then 2 * m.handleCount + 5 else 2 * m.handleCount + 8) ∧
    (m'.stepsLeft = 0 ↔ m'.phase = .gone) ∧
    (m'.phase ≠ .gone → ∃ b m₂, b.isLast = true ∧ m'.next b = some m₂) := by
  have hrun₁ : machine.Run NativesBeforeDetach (tr ++ [a]) m₁ := by
    obtain ⟨m₀, m₂, hr₀, hc, -, -⟩ := hrun'.split
    obtain rfl := hr₀.unique hrun
    exact .snoc hrun hc hn
  have hassoc : tr ++ a :: tr' = (tr ++ [a]) ++ tr' := by simp
  rw [hassoc] at hrun'
  obtain ⟨hlate', hcount⟩ := hrun₁.countdown (J := fun m => ¬m.phase.IsOpen) (μ := stepsLeft)
    (p := Action.isLast) hlate
    (fun _ _ _ _ hr hl hc hn => next_stepsLeft (run_records hr) (late_stack hr hl) hl hc hn) hrun'
  refine ⟨?_, stepsLeft_eq_zero hlate', fun hgone => ?_⟩
  · rw [hcount]
    exact stepsLeft_begin hrun ho hn hlate
  · have hstack := late_stack hrun' hlate'
    by_cases hd : m'.phase = .detached
    · have hexit : m'.next .exit = some { m' with phase := .exiting } := by
        simp only [next]
        exact if_pos ⟨hstack, Or.inr hd⟩
      exact ⟨.exit, _, rfl, hexit⟩
    · obtain ⟨m₂, hm₂⟩ := teardown_enabled hstack hlate' hd hgone
      exact ⟨_, m₂, rfl, hm₂⟩

/-- Two handles, one of them in flight, when the drain loop begins. -/
def leaving : List Action :=
  [.load 7, .easyInit 7 (some 100), .easyInit 7 (some 101), .easyPerform 1 true 3 0, .addReturn true,
    .onAmxxDetach]

/-- The loop times out, and libcurl is done with the transfer while its handle is visited. -/
def left : List Action := [.teardown [], .postDone 100 0, .teardown [], .teardown [2, 1], .teardown []]

def leavingState : AmxCurlController :=
  (machine.exec NativesBeforeDetach boot leaving).get (by decide)

def leftState : AmxCurlController :=
  (machine.exec NativesBeforeDetach boot (leaving ++ .drained true [2, 1] :: left)).get (by decide)

def drainedState : AmxCurlController :=
  (leavingState.next (.drained true [2, 1])).get (by decide)

theorem teardown_counts_down_left : 4 + leftState.stepsLeft = 12 := by
  have hrun : machine.Run NativesBeforeDetach leaving leavingState :=
    Machine.run_of_exec (Option.some_get _).symm
  have hrun' : machine.Run NativesBeforeDetach (leaving ++ .drained true [2, 1] :: left) leftState :=
    Machine.run_of_exec (Option.some_get _).symm
  have hlate : ¬drainedState.phase.IsOpen := by
    rw [show drainedState.phase = .removing .onAmxxDetach [2, 1] by decide]
    simp [Phase.IsOpen]
  have hcount := (teardown_counts_down hrun (Or.inr (by decide)) (Option.some_get _).symm hlate
    hrun').1
  rw [if_neg (by simp), show leavingState.handleCount = 2 by decide] at hcount
  exact hcount

end AmxCurlController

end AmxxCurl
