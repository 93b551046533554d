/-
What the catch in `AsioPoller::Poll` leaves behind.

A handler clears the flag of its wait when it starts and renews the wait when it ends, and
libcurl and the completion callbacks run in between.  A callback that throws takes the
handler past its last lines: the number whose readiness brought it up is then watched no
more, unless libcurl has asked for its direction again meanwhile.  Every other direction is
covered without the handler and stays so.

`Served` says that there is nothing left for the handler to do; a run that is `Renewed` is
cut short only there.
-/
import AmxxCurl.Multi.Coverage
import AmxxCurl.Multi.Fading

namespace AmxxCurl

namespace CurlMulti

variable {m m' : CurlMulti} {a : Action} {tr : List Action}

/-- The handler's own direction is armed again, if libcurl wants it and nothing has failed. -/
def servedBy (m : CurlMulti) : Option Handler → Prop
  | some (.socket dir s sd false _) => m.socketDataMap.lookup s = some sd →
      wants (m.data sd).previousAction dir = true → (m.data sd).armed dir = true
  | some (.socket _ _ _ true _) => True
  | some (.timer _) => True
  | none => True

instance (m : CurlMulti) : ∀ h, Decidable (m.servedBy h)
  | some (.socket dir s sd false _) =>
      inferInstanceAs (Decidable (m.socketDataMap.lookup s = some sd →
        wants (m.data sd).previousAction dir = true → (m.data sd).armed dir = true))
  | some (.socket _ _ _ true _) => .isTrue trivial
  | some (.timer _) => .isTrue trivial
  | none => .isTrue trivial

/-- There is nothing left to do for the handler on the stack. -/
def Served (m : CurlMulti) : Prop := m.servedBy m.handler

instance (m : CurlMulti) : Decidable m.Served := inferInstanceAs (Decidable (m.servedBy m.handler))

/-- No `async_wait` with which the handler renews its waits runs out of memory. -/
def renewsBy (m : CurlMulti) (oom : Option Dir) : Option Handler → Prop
  | some (.socket _ _ sd false _) => ∀ dir, oom = some dir →
      wants (m.data sd).previousAction dir = true → (m.data sd).armed dir = true
  | some (.socket _ _ _ true _) => True
  | some (.timer _) => True
  | none => True

instance (m : CurlMulti) (oom : Option Dir) : ∀ h, Decidable (m.renewsBy oom h)
  | some (.socket _ _ sd false _) =>
      inferInstanceAs (Decidable (∀ dir, oom = some dir →
        wants (m.data sd).previousAction dir = true → (m.data sd).armed dir = true))
  | some (.socket _ _ _ true _) => .isTrue trivial
  | some (.timer _) => .isTrue trivial
  | none => .isTrue trivial

/-- No exception leaves a handler that has still to renew its wait. -/
def Renewed (m : CurlMulti) : Action → Prop
  | .checkMultiInfoReturn oom => m.Served ∨ m.renewsBy oom m.handler
  | .checkMultiInfoThrow => m.Served
  | _ => True

instance : ∀ m a, Decidable (Renewed m a)
  | m, .checkMultiInfoReturn oom =>
      inferInstanceAs (Decidable (m.Served ∨ m.renewsBy oom m.handler))
  | m, .checkMultiInfoThrow => inferInstanceAs (Decidable m.Served)
  | _, .socketCallback .. | _, .openSocketCallback .. | _, .closeSocketCallback _
  | _, .timerCallback _ | _, .complete .. | _, .dispatch _ | _, .expire _ | _, .dispatchTimer _
  | _, .runPosted | _, .socketActionReturn _ | _, .foreignOpen _ | _, .foreignClose _
  | _, .detach | _, .shutdown => .isTrue trivial

/--
Each direction libcurl wants of a tracked number has a wait outstanding on the socket the
number has now, or its last wait failed and libcurl was told so.
-/
def Watched (m : CurlMulti) : Prop :=
  ∀ s sd dir, m.socketDataMap.lookup s = some sd →
    wants (m.data sd).previousAction dir = true →
    (∃ (w : WaitId) (o : SockId), m.socketMap.lookup s = some o ∧ m.Bound sd dir w ∧
        (m.wait w).fd = s ∧ (m.wait w).sock = o ∧ (m.wait w).cancelled = false) ∨
      m.Failed s sd dir

/-! ### Cutting a handler short -/

theorem Coverage.watched (h : Coverage m) (ht : Tracking m) (hidle : m.handler = none) :
    Watched m := by
  intro s sd dir hs hwant
  rcases h hs hwant with harmed | hfailed | ⟨phase, hbusy⟩
  · obtain ⟨w, hout, hsd, hdir⟩ := (ht.armedIff sd dir).mp harmed
    obtain ⟨o, ho⟩ := ht.dataSock hs
    obtain ⟨hfd, hsock, hcancelled⟩ := ht.current hs ho hout hsd
    exact Or.inl ⟨w, o, ho, ⟨hout, hsd, hdir⟩, hfd, hsock, hcancelled⟩
  · exact Or.inr hfailed
  · rw [hidle] at hbusy
    simp at hbusy

/-- A handler that is done leaves everything covered when it goes. -/
theorem Coverage.popped (h : Coverage m) (hserved : Served m) :
    Coverage { m with handler := none } := by
  intro s sd dir hs hwant
  rcases h hs hwant with harmed | hfailed | ⟨phase, hbusy⟩
  · exact Or.inl harmed
  · exact Or.inr (Or.inl hfailed)
  · unfold Served at hserved
    rw [hbusy] at hserved
    exact Or.inl (hserved hs hwant)

theorem Coverage.caught {x : CurlMulti × Except Exn Unit} (h : Coverage x.1)
    (hserved : Served x.1) : Coverage (pollCatch x) := by
  have hprint := (h.popped hserved).printUnlessDetached
  unfold pollCatch
  split
  · exact h.popped hserved
  · rename_i m₁ e
    unfold CurlMulti.printUnlessDetached at hprint ⊢
    dsimp only at hprint
    split
    · rename_i hdetached
      rw [if_pos hdetached] at hprint
      exact hprint
    · rename_i hattached
      rw [if_neg hattached] at hprint
      exact hprint

/-- What a wait may run out of memory on, if on anything. -/
theorem armWaits_no_throw {act : CInt} {s : Fd} {sd : SocketDataId} {o : SockId}
    {oom : Option Dir} (hoom : ∀ dir, oom = some dir → wants act dir = true →
      (m.data sd).armed dir = true) :
    m.armWaits act s sd o oom = m.armWaits act s sd o none := by
  have hdir : ∀ {m₁ : CurlMulti} {dir : Dir}, (∀ dir, (m.data sd).armed dir = true →
      (m₁.data sd).armed dir = true) → m₁.armDir act s sd o oom dir =
        m₁.armDir act s sd o none dir := by
    intro m₁ dir harmed
    unfold armDir
    split
    · rename_i hc
      have hne : oom ≠ some dir := by
        intro he
        simp only [Bool.and_eq_true, Bool.not_eq_true'] at hc
        have hset := harmed dir (hoom dir he hc.1)
        rw [data, hc.2] at hset
        exact absurd hset (by decide)
      rw [if_neg hne, if_neg (by simp)]
    · rfl
  unfold armWaits
  rw [hdir fun _ h => h]
  split
  · rfl
  · rename_i m₁ he
    refine hdir fun dir h => ?_
    have harms : Arms sd m (m.armDir act s sd o none .pollIn).1 := armDir_arms
    rw [he] at harms
    exact harms.armed dir h

/-- The handler that runs out of no memory ends as it would without the chance. -/
theorem rearm_no_throw {dir : Dir} {s : Fd} {sd : SocketDataId} {error : Bool} {phase : Phase}
    {oom : Option Dir} (hh : m.handler = some (.socket dir s sd error phase))
    (hr : m.renewsBy oom m.handler) : m.rearm s sd error oom = m.rearm s sd error none := by
  rw [hh] at hr
  unfold rearm
  dsimp only
  generalize hm : (if m.runningHandles ≤ 0 then m.cancelTimer else m) = m₁
  have hdata : m₁.socketData = m.socketData := by
    rw [← hm]
    split <;> rfl
  split
  · rfl
  · split
    · rename_i hgo
      refine armWaits_no_throw fun dir' he hwant => ?_
      have herr : error = false := by simpa using hgo.1
      subst herr
      rw [hdata] at hwant
      rw [data, hdata]
      exact hr dir' he hwant
    · rfl

/-- Whatever the handler has renewed when it ends, nothing is uncovered. -/
theorem Coverage.rearmed {s : Fd} {sd : SocketDataId} {error : Bool} {oom : Option Dir}
    (h : Coverage m) : Coverage (m.rearm s sd error oom).1 := by
  have htimer : Coverage (if m.runningHandles ≤ 0 then m.cancelTimer else m) := by
    split
    · exact h.of_eq rfl rfl rfl rfl fun _ => id
    · exact h
  rcases m.rearm_call s sd error oom with
    ⟨-, hrearm⟩ | ⟨c, -, hstate, -, -, -, -, -, -, -, hrearm⟩
  · rw [hrearm]
    exact htimer
  · rw [hrearm]
    rw [← hstate] at htimer
    exact Coverage.arms htimer c.arms

theorem Served.rearmed {s : Fd} {sd : SocketDataId} {error : Bool} {oom : Option Dir}
    (h : Served m) : Served (m.rearm s sd error oom).1 := by
  -- only armed flags change, and only to set
  have hkeep : ∀ {m₁ : CurlMulti}, m₁.handler = m.handler → m₁.socketDataMap = m.socketDataMap →
      (∀ sd, (m₁.data sd).previousAction = (m.data sd).previousAction) →
      (∀ sd dir, (m.data sd).armed dir = true → (m₁.data sd).armed dir = true) → Served m₁ := by
    intro m₁ hhandler hdata hprevious harmed
    unfold Served at h ⊢
    rw [hhandler]
    cases hh : m.handler with
    | none => trivial
    | some handler =>
        rw [hh] at h
        cases handler with
        | timer phase => trivial
        | socket dir s sd error phase =>
            cases error with
            | true => trivial
            | false =>
                intro hs hwant
                rw [hdata] at hs
                rw [hprevious] at hwant
                exact harmed sd dir (h hs hwant)
  have htimer : (if m.runningHandles ≤ 0 then m.cancelTimer else m).handler = m.handler ∧
      (if m.runningHandles ≤ 0 then m.cancelTimer else m).socketDataMap = m.socketDataMap ∧
      (if m.runningHandles ≤ 0 then m.cancelTimer else m).socketData = m.socketData := by
    split <;> exact ⟨rfl, rfl, rfl⟩
  rcases m.rearm_call s sd error oom with
    ⟨-, hrearm⟩ | ⟨c, -, hstate, -, -, -, -, -, -, -, hrearm⟩
  · rw [hrearm]
    refine hkeep htimer.1 htimer.2.1 (fun sd => ?_) (fun sd dir harmed => ?_)
    · rw [data, htimer.2.2]
    · rw [data, htimer.2.2]
      exact harmed
  · rw [hrearm]
    rw [← hstate] at htimer
    have harms := c.arms
    have hcell : ∀ sd, c.state.data sd = m.data sd := fun sd => by rw [data, htimer.2.2]
    refine hkeep (harms.handler.trans htimer.1) (harms.socketDataMap.trans htimer.2.1)
      (fun sd => ?_) (fun sd dir harmed => ?_)
    · rw [← hcell]
      by_cases he : sd = c.sd
      · rw [he]
        exact harms.previous
      · rw [harms.other sd he]
    · rw [← hcell] at harmed
      by_cases he : sd = c.sd
      · rw [he] at harmed ⊢
        exact harms.armed dir harmed
      · rw [harms.other sd he]
        exact harmed

/-- While the multi is alive, every step of a renewed run keeps the coverage. -/
theorem Coverage.renewed (h : Coverage m) (ht : Tracking m) (halive : m.curlMulti = true)
    (hc : Renewed m a) (hn : m.next a = some m') (halive' : m'.curlMulti = true) :
    Coverage m' := by
  cases a with
  | socketCallback s what refusal oom =>
      obtain rfl := Option.some.inj hn
      exact h.curlSocketCallback ht halive
  | checkMultiInfoReturn oom =>
      simp only [CurlMulti.next] at hn
      split at hn
      · rename_i hh
        obtain rfl := Option.some.inj hn
        rcases hc with hserved | hrenews
        · exact Coverage.caught h.rearmed hserved.rearmed
        · rw [rearm_no_throw hh hrenews]
          exact h.rearm ht hh
      · rename_i hh
        obtain rfl := Option.some.inj hn
        exact h.setHandler (by simp [hh])
      · simp at hn
  | checkMultiInfoThrow =>
      simp only [CurlMulti.next] at hn
      split at hn
      · obtain rfl := Option.some.inj hn
        exact Coverage.caught (x := (m, .error .badAlloc)) h hc
      · obtain rfl := Option.some.inj hn
        exact Coverage.caught (x := (m, .error .badAlloc)) h hc
      · simp at hn
  | _ =>
      refine h.next ht halive ?_ hn halive'
      trivial

theorem run_coverage (h : machine.Run Renewed tr m) : m.curlMulti = true → Coverage m :=
  h.invariant_of (P := fun m => m.curlMulti = true → Coverage m) tracking (fun _ => .boot)
    fun _ _ _ ht hcov hc hn halive' =>
      have halive := next_alive hn halive'
      (hcov halive).renewed ht halive hc hn halive'

/-! ### The wait of the handler on the stack has not failed -/

/-- Only a dispatch dispatches. -/
theorem next_dispatched (hn : m.next a = some m') (hno : ∀ w, a ≠ .dispatch w) {w : Nat}
    {r : WaitResult} (hlt : w < m.asio.waits.next)
    (hst : (m'.wait w).status = .dispatched r) : (m.wait w).status = .dispatched r := by
  have hsame : (m'.wait w).outstanding = (m.wait w).outstanding := by
    rcases next_calls hn with ⟨-, hrests⟩ | ⟨c, -, hthrough⟩ | ⟨w', _, rfl, -⟩
    · exact hrests.outstanding w
    · have hcell : m'.wait w = c.after.wait w := by rw [wait, hthrough.asio]
      rw [hcell, c.arms.old w (by rw [hthrough.rests.next_eq]; exact hlt)]
      exact hthrough.rests.outstanding w
    · exact absurd rfl (hno w')
  have hdone : (m.wait w).outstanding = false := by
    rw [← hsame]
    unfold Wait.outstanding
    rw [hst]
  cases hst₀ : (m.wait w).status with
  | pending =>
      unfold Wait.outstanding at hdone
      rw [hst₀] at hdone
      simp at hdone
  | completed r' =>
      unfold Wait.outstanding at hdone
      rw [hst₀] at hdone
      simp at hdone
  | dispatched r' =>
      have hage := (next_log hn hno).2.dispatched w hlt r' hst₀
      exact hage.symm.trans hst

/--
The handler on the stack was brought up by a wait that has not failed, and no later wait of
its direction has.
-/
def HandlerWait (m : CurlMulti) : Prop :=
  ∀ {dir s sd phase}, m.handler = some (.socket dir s sd false phase) →
    ∃ w₀ : Nat, w₀ < m.asio.waits.next ∧ (m.wait w₀).sd = sd ∧ (m.wait w₀).dir = dir ∧
      ∀ w : Nat, w₀ ≤ w → w < m.asio.waits.next → (m.wait w).sd = sd → (m.wait w).dir = dir →
        (m.wait w).status ≠ .dispatched .error

/-- A handler without an error comes of a wait without one, the last of its direction. -/
theorem dispatch_handlerWait {w : Nat} (ht : Tracking m) (hn : m.next (.dispatch w) = some m') :
    HandlerWait m' := by
  intro dir s sd phase hh
  cases next_fires hn with
  | dispatch _ r hidle hst =>
      have hout : (m.wait w).outstanding = true := by
        unfold Wait.outstanding
        rw [wait, hst]
      have hcell := m.asio.markDispatched_bound w r
      obtain ⟨he, -, -⟩ := asioSocketActionCallback_some hh hidle
      obtain ⟨hdir, -, hsd, herr, -⟩ := Handler.socket.inj he
      have herr : r ≠ .error := by simpa using herr
      refine ⟨w, ?_, ?_, ?_, fun w' hle hlt hsd' hdir' hst' => ?_⟩
      · rw [asioSocketActionCallback_asio]
        exact (ht.waitLt hout).1
      · rw [wait, asioSocketActionCallback_asio]
        exact (hcell w).1.trans hsd.symm
      · rw [wait, asioSocketActionCallback_asio]
        exact (hcell w).2.trans hdir.symm
      · rw [wait, asioSocketActionCallback_asio] at hsd' hdir' hst'
        rw [asioSocketActionCallback_asio] at hlt
        -- it is the last of its direction, so it is the one that is dispatched
        have hge : w' ≤ w := ht.latest hout hlt (((hcell w').1.symm.trans hsd').trans hsd)
          (((hcell w').2.symm.trans hdir').trans hdir)
        obtain rfl : w' = w := Nat.le_antisymm hge hle
        rw [m.asio.markDispatched_self, WaitStatus.dispatched.injEq] at hst'
        exact herr hst'

theorem HandlerWait.step (h : HandlerWait m) (ht : Tracking m) (hn : m.next a = some m') :
    HandlerWait m' := by
  intro dir s sd phase hh'
  by_cases hdispatch : ∃ w, a = .dispatch w
  · obtain ⟨w, rfl⟩ := hdispatch
    exact dispatch_handlerWait ht hn hh'
  · have hno : ∀ w, a ≠ .dispatch w := fun w he => hdispatch ⟨w, he⟩
    rcases next_handler hn hh' with ⟨w, rfl⟩ | ⟨phase', hh⟩
    · exact absurd rfl (hno w)
    · obtain ⟨w₀, hlt, hsd, hdir, hlast⟩ := h hh
      obtain ⟨hle, hold, hnew⟩ := next_waits hn
      refine ⟨w₀, Nat.lt_of_lt_of_le hlt hle, (hold w₀ hlt).1.trans hsd,
        (hold w₀ hlt).2.1.trans hdir, fun w hge hw hsd' hdir' hst => ?_⟩
      by_cases hw₀ : w < m.asio.waits.next
      · rw [(hold w hw₀).1] at hsd'
        rw [(hold w hw₀).2.1] at hdir'
        exact hlast w hge hw₀ hsd' hdir' (next_dispatched hn hno hw₀ hst)
      · obtain ⟨c, dir', -, -, hw', -⟩ := hnew w (Nat.le_of_not_lt hw₀) hw
        rw [hw'] at hst
        simp at hst

theorem run_handlerWait {C : CurlMulti → Action → Prop} (h : machine.Run C tr m) :
    HandlerWait m := by
  refine h.invariant_of (P := fun m => HandlerWait m) tracking ?_ ?_
  · intro dir s sd phase hh
    simp [machine, boot] at hh
  · exact fun _ _ _ ht hP _ hn => hP.step ht hn

/-- The handler's own direction does not count as failed when it is gone. -/
theorem HandlerWait.not_failed (h : HandlerWait m) {dir : Dir} {s s' : Fd} {sd : SocketDataId}
    {phase : Phase} (hh : m.handler = some (.socket dir s sd false phase))
    (hasio : m'.asio = m.asio) : ¬m'.Failed s' sd dir := by
  intro hfailed
  unfold Failed wait at hfailed
  rw [hasio] at hfailed
  obtain ⟨w, hlt, hsd, hdir, hst, hlast, -⟩ := hfailed
  obtain ⟨w₀, hlt₀, hsd₀, hdir₀, hno⟩ := h hh
  exact hno w (hlast w₀ hlt₀ hsd₀ hdir₀) hlt hsd hdir hst

/-! ### When a throw leaves everything watched -/

/-- What the catch leaves: the state of the throw, with no handler on the stack. -/
theorem throw_spec (hn : m.next .checkMultiInfoThrow = some m') :
    m.handler ≠ none ∧ m'.handler = none ∧ m'.curlMulti = m.curlMulti ∧
      m'.socketDataMap = m.socketDataMap ∧ m'.socketData = m.socketData ∧ m'.asio = m.asio := by
  have hcatch : ∀ x : CurlMulti × Except Exn Unit, (pollCatch x).handler = none ∧
      (pollCatch x).curlMulti = x.1.curlMulti := by
    intro x
    refine ⟨?_, (pollCatch_emits (x := x)).curlMulti⟩
    unfold pollCatch
    split <;> rfl
  have hsame := Apart.pollCatch (m, .error .badAlloc)
  cases next_fires hn with
  | checkMultiInfoThrow hh =>
      have hbusy : m.handler ≠ none := by
        rcases hh with ⟨dir, s, sd, error, hh⟩ | hh
        · rw [hh]
          simp
        · rw [hh]
          simp
      exact ⟨hbusy, (hcatch _).1, (hcatch _).2, hsame.socketDataMap, hsame.socketData, hsame.asio⟩

/--
**A throw leaves every direction watched iff the handler it cuts short was done**; in a run
that has no other throw, every direction is watched whenever `Poll` has returned.
-/
theorem caught_watched_iff (h : machine.Run Renewed tr m) :
    (m.curlMulti = true → m.handler = none → Watched m) ∧
      ∀ m', m.next .checkMultiInfoThrow = some m' → (Watched m' ↔ Served m) := by
  refine ⟨fun halive hidle => (run_coverage h halive).watched (tracking h) hidle, ?_⟩
  intro m' hn
  obtain ⟨hbusy, hidle', halive', hdata, hsd, hasio⟩ := throw_spec hn
  have halive : m.curlMulti = true := run_handlerAlive h hbusy
  have hstep : machine.next m .checkMultiInfoThrow = some m' := hn
  have ht' : Tracking m' := tracking (Machine.Run.snoc h.free trivial hstep)
  constructor
  · intro hwatched
    unfold Served
    cases hh : m.handler with
    | none => trivial
    | some handler =>
        cases handler with
        | timer phase => trivial
        | socket dir s sd error phase =>
            cases error with
            | true => trivial
            | false =>
                intro hs hwant
                rcases hwatched s sd dir (by rw [hdata]; exact hs)
                  (by rw [data, hsd]; exact hwant) with ⟨w, o, -, hbound, -⟩ | hfailed
                · have harmed := (ht'.armedIff sd dir).mpr ⟨w, hbound⟩
                  rw [data, hsd] at harmed
                  exact harmed
                · exact absurd hfailed (HandlerWait.not_failed (run_handlerWait h) hh hasio)
  · intro hserved
    have hrenewed : Renewed m .checkMultiInfoThrow := hserved
    have hcov := (run_coverage h halive).renewed (tracking h) halive hrenewed hn
      (halive'.trans halive)
    exact hcov.watched ht' hidle'

/-- libcurl asks for more inside the handler, so the completion may throw. -/
def rescuing : List Action :=
  [.openSocketCallback .ipcxn .inet (some 5), .socketCallback 5 CURL_POLL_IN .none none,
   .complete 0 .ok, .dispatch 0, .socketCallback 5 CURL_POLL_IN .none none,
   .socketActionReturn 1]

def rescued : CurlMulti := (machine.exec Renewed boot rescuing).get (by decide)

def rescuedThrown : CurlMulti := (rescued.next .checkMultiInfoThrow).get (by decide)

theorem caught_watched_iff_rescued : (rescued.curlMulti = true → rescued.handler = none →
    Watched rescued) ∧ Watched rescuedThrown := by
  have hrun : machine.Run Renewed rescuing rescued := Machine.run_of_exec (Option.some_get _).symm
  exact ⟨(caught_watched_iff hrun).1,
    ((caught_watched_iff hrun).2 rescuedThrown (Option.some_get _).symm).mpr (by decide)⟩

/--
Two connections.  While the handler of the first one's read wait runs, a completion callback
throws: the first is watched no more.
-/
def stalling : List Action :=
  [.openSocketCallback .ipcxn .inet (some 5), .socketCallback 5 CURL_POLL_IN .none none,
   .openSocketCallback .ipcxn .inet (some 6), .socketCallback 6 CURL_POLL_IN .none none,
   .complete 0 .ok, .dispatch 0, .socketCallback 6 CURL_POLL_REMOVE .none none,
   .closeSocketCallback 6, .socketActionReturn 1, .checkMultiInfoThrow]

def stalled : CurlMulti := (machine.exec Machine.Free boot stalling).get (by decide)

theorem throw_stalls : machine.Run Machine.Free stalling stalled ∧ ¬Watched stalled := by
  have hrun : machine.Run Machine.Free stalling stalled :=
    Machine.run_of_exec (Option.some_get _).symm
  refine ⟨hrun, fun hwatched => ?_⟩
  have ht := tracking hrun
  rcases hwatched 5 0 .pollIn (by decide) (by decide) with ⟨w, o, -, hbound, -⟩ | hfailed
  · have harmed := (ht.armedIff 0 .pollIn).mpr ⟨w, hbound⟩
    exact absurd harmed (by decide)
  · obtain ⟨w, hlt, hsd, -, hst, -⟩ := hfailed
    have hcases : w = 0 ∨ w = 1 := by
      have hnext : stalled.asio.waits.next = 2 := by decide
      omega
    rcases hcases with rfl | rfl
    · exact absurd hst (by decide)
    · exact absurd hsd (by decide)

end CurlMulti

end AmxxCurl
