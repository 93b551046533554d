/-
A direction libcurl no longer asks for.

A wait that was armed when libcurl still wanted its direction cannot be taken back: it
completes once, and is reported once.  After that nothing may renew it.  Both callers of
`ArmWaits` arm what the request itself or a `previous_action` says, so a direction of a
number fades out if `previous_action` follows the requests and the handler renews what it
says of the number.

Neither is always so.  CURL_POLL_NONE returns before `SetSock`, and an `async_wait` that
throws leaves `SetSock` before its last line.  And the handler reads the `previous_action` of
the `SocketData` it was bound to, which after a close is not the one its number has.
`Heeded` rules the three out, where there is a direction to drop.

The monitor `fading` watches one direction of one number: where the waits stood when libcurl
dropped it, and the reports made of it since.
-/
import AmxxCurl.Multi.Generations

namespace AmxxCurl

/-- `ArmWaits` starts a wait of this direction. -/
def SocketData.Starts (d : SocketData) (act : CInt) (oom : Option Dir) (dir : Dir) : Prop :=
  wants act dir = true ∧ d.armed dir = false ∧ ¬d.Throws act oom .pollIn ∧ ¬d.Throws act oom dir

instance (d : SocketData) (act : CInt) (oom : Option Dir) (dir : Dir) :
    Decidable (d.Starts act oom dir) := inferInstanceAs (Decidable (_ ∧ _ ∧ _ ∧ _))

namespace CurlMulti

/-- A direction has been dropped. -/
structure Fade where
  /-- The number of the next wait, when it was. -/
  since : Nat
  /-- The reports since then. -/
  reports : Nat
  deriving DecidableEq

variable {m m' : CurlMulti} {a : Action} {tr : List Action} {c : ArmCall}

/-- The handler of a wait of this direction got as far as `curl_multi_socket_action`. -/
def reports (s : Fd) (dir : Dir) (m : CurlMulti) (w : WaitId) (m' : CurlMulti) : Prop :=
  (m.wait w).fd = s ∧ (m.wait w).dir = dir ∧ m'.handler.isSome

instance (s : Fd) (dir : Dir) (m : CurlMulti) (w : WaitId) (m' : CurlMulti) :
    Decidable (reports s dir m w m') := inferInstanceAs (Decidable (_ ∧ _ ∧ _))

/-- What is noted of a direction: a request for the number drops it or asks for it, a handler
reports it. -/
def noteFade (s : Fd) (dir : Dir) (b : Option Fade) (m : CurlMulti) (a : Action)
    (m' : CurlMulti) : Option Fade :=
  match a with
  | .socketCallback s' what _ _ =>
      if s' = s ∧ what ≠ CURL_POLL_REMOVE then
        if wants what dir then none else some (b.getD ⟨m'.asio.waits.next, 0⟩)
      else b
  | .dispatch w =>
      if reports s dir m w m' then b.map fun f => { f with reports := f.reports + 1 } else b
  | _ => b

/-- How a direction stands: `none` where libcurl's last request for the number has asked for
it. -/
def fading (s : Fd) (dir : Dir) (tr : List Action) : Option Fade :=
  machine.observe (noteFade s dir) none boot tr

/-- A direction libcurl has dropped is reported once more at most, and armed no more. -/
def FadesOut (tr : List Action) (m : CurlMulti) : Prop :=
  ∀ s dir f, fading s dir tr = some f → f.reports ≤ 1 ∧
    ∀ w : Nat, f.since ≤ w → w < m.asio.waits.next → ¬((m.wait w).fd = s ∧ (m.wait w).dir = dir)

/-- What the handler is about to renew is wanted of its number. -/
def Renews (m : CurlMulti) (oom : Option Dir) : Handler → Prop
  | .socket _ s sd false .inCheckMultiInfo =>
      s ∉ m.removedSockets → (m.socketDataMap.lookup s).isSome →
        ∀ dir, (m.data sd).Starts (m.data sd).previousAction oom dir →
          wants (m.known s).previousAction dir = true
  | _ => True

instance : ∀ m oom h, Decidable (Renews m oom h)
  | m, oom, .socket _ s sd false .inCheckMultiInfo =>
      inferInstanceAs (Decidable (s ∉ m.removedSockets → (m.socketDataMap.lookup s).isSome →
        ∀ dir, (m.data sd).Starts (m.data sd).previousAction oom dir →
          wants (m.known s).previousAction dir = true))
  | _, _, .socket _ _ _ true _ | _, _, .socket _ _ _ false .inSocketAction | _, _, .timer _ =>
      .isTrue trivial

/--
A request that leaves out a direction `previous_action` has is recorded there, and a handler
renews only what the `previous_action` of its number has.
-/
def Heeded (m : CurlMulti) : Action → Prop
  | .socketCallback s what _ oom => m.curlMulti = true → what ≠ CURL_POLL_REMOVE →
      (∀ dir, wants (m.known s).previousAction dir = true → wants what dir = true) ∨
        m.Records s what oom
  | .checkMultiInfoReturn oom => ∀ h, m.handler = some h → m.Renews oom h
  | _ => True

instance : ∀ m a, Decidable (Heeded m a)
  | m, .socketCallback s what _ oom =>
      inferInstanceAs (Decidable (m.curlMulti = true → what ≠ CURL_POLL_REMOVE →
        (∀ dir, wants (m.known s).previousAction dir = true → wants what dir = true) ∨
          m.Records s what oom))
  | m, .checkMultiInfoReturn oom => inferInstanceAs (Decidable (∀ h ∈ m.handler, m.Renews oom h))
  | _, .openSocketCallback .. | _, .closeSocketCallback _ | _, .timerCallback _
  | _, .complete .. | _, .dispatch _ | _, .expire _ | _, .dispatchTimer _ | _, .runPosted
  | _, .socketActionReturn _ | _, .checkMultiInfoThrow
  | _, .foreignOpen _ | _, .foreignClose _ | _, .detach | _, .shutdown => .isTrue trivial

/-! ### The multi is alive while a handler is on the stack -/

/-- Handlers come onto the stack from the `io_context` alone. -/
theorem next_idle (hn : m.next a = some m') (hidle : m.handler = none)
    (hdispatch : ∀ w, a ≠ .dispatch w) (htimer : ∀ t, a ≠ .dispatchTimer t)
    (hposted : a ≠ .runPosted) : m'.handler = none := by
  have hbusy : ∀ {h : Handler}, m.handler ≠ some h := by
    intro h he
    rw [hidle] at he
    simp at he
  cases next_fires hn with
  | dispatch w r hfree hst => exact absurd rfl (hdispatch w)
  | dispatchTimer t r hfree hst => exact absurd rfl (htimer t)
  | runPosted hfree hsome => exact absurd rfl hposted
  | socketCallback s what refusal oom =>
      exact (Aside.curlSocketCallback m s what refusal oom).handler.trans hidle
  | openSocketCallback purpose family reply hfree =>
      exact (Aside.curlOpenSocketCallback m purpose family reply).handler.trans hidle
  | closeSocketCallback s => exact (Aside.curlCloseSocketCallback m s).handler.trans hidle
  | timerCallback t => exact (m.curlTimerCallback_handler t).trans hidle
  | socketActionReturn running dir s sd error hh => exact absurd hh hbusy
  | timerActionReturn running hh => exact absurd hh hbusy
  | socketReturn oom dir s sd error hh => exact absurd hh hbusy
  | timerReturn oom hh => exact absurd hh hbusy
  | checkMultiInfoThrow hh =>
      rcases hh with ⟨dir, s, sd, error, hh⟩ | hh
      · exact absurd hh hbusy
      · exact absurd hh hbusy
  | shutdown hfree => exact m.shutdown_handler.trans hidle
  | _ => exact hidle

/-- The handler on the stack has found the multi alive. -/
def HandlerAlive (m : CurlMulti) : Prop := m.handler ≠ none → m.curlMulti = true

theorem dispatch_alive {w : Nat} (hn : m.next (.dispatch w) = some m') : HandlerAlive m' := by
  intro hbusy
  obtain ⟨h, hh⟩ := Option.ne_none_iff_exists'.mp hbusy
  cases next_fires hn with
  | dispatch _ r hidle hst =>
      obtain ⟨-, halive, -⟩ := asioSocketActionCallback_some hh hidle
      exact (asioSocketActionCallback_cases ..).1.trans halive

theorem dispatchTimer_alive {t : Nat} (hn : m.next (.dispatchTimer t) = some m') :
    HandlerAlive m' := by
  intro hbusy
  cases next_fires hn with
  | dispatchTimer _ r hidle hst =>
      unfold asioTimerCallback at hbusy ⊢
      split at hbusy
      · exact absurd hidle hbusy
      · rename_i hok
        rw [if_neg hok]
        split at hbusy
        · exact absurd hidle hbusy
        · rename_i halive
          rw [if_neg halive]
          have hm : m.curlMulti = true := by simpa using halive
          exact hm

theorem runPosted_alive (hn : m.next .runPosted = some m') : HandlerAlive m' := by
  intro hbusy
  cases next_fires hn with
  | runPosted hidle hposted =>
      unfold postedTask at hbusy ⊢
      split at hbusy
      · exact absurd hidle hbusy
      · rename_i halive
        rw [if_neg halive]
        have hm : m.curlMulti = true := by simpa using halive
        exact hm

theorem HandlerAlive.step (h : HandlerAlive m) (hn : m.next a = some m') : HandlerAlive m' := by
  by_cases hdispatch : ∃ w, a = .dispatch w
  · obtain ⟨w, rfl⟩ := hdispatch
    exact dispatch_alive hn
  · by_cases htimer : ∃ t, a = .dispatchTimer t
    · obtain ⟨t, rfl⟩ := htimer
      exact dispatchTimer_alive hn
    · by_cases hposted : a = .runPosted
      · subst hposted
        exact runPosted_alive hn
      · have hno : ∀ w, a ≠ .dispatch w := fun w he => hdispatch ⟨w, he⟩
        intro hbusy'
        have hbusy : m.handler ≠ none := fun hidle =>
          hbusy' (next_idle hn hidle hno (fun t he => htimer ⟨t, he⟩) hposted)
        by_cases hdetach : a = .detach
        · subst hdetach
          obtain rfl := Option.some.inj hn
          exact h hbusy
        · by_cases hshutdown : a = .shutdown
          · -- the multi is not torn down from inside a handler
            subst hshutdown
            simp only [next, if_neg hbusy] at hn
            simp at hn
          · exact (next_emits hn hno hdetach hshutdown).curlMulti.trans (h hbusy)

theorem run_handlerAlive {C : CurlMulti → Action → Prop} (h : machine.Run C tr m) :
    HandlerAlive m :=
  h.invariant (P := HandlerAlive) (fun _ => rfl) fun _ _ _ hP _ hn => hP.step hn

/-! ### What a step leaves of a dropped direction -/

variable {s : Fd} {dir : Dir} {f : Fade}

/-- A heeded request that does not ask for a direction leaves none that does. -/
theorem Heeded.dropped {what : CInt} {refusal : Kernel.Refusal} {oom : Option Dir}
    (hc : Heeded m (.socketCallback s what refusal oom)) (ht : Tracking m)
    (halive : m.curlMulti = true) (hn : m.next (.socketCallback s what refusal oom) = some m')
    (hwhat : what ≠ CURL_POLL_REMOVE) (hdrop : wants what dir = false) :
    wants (m'.known s).previousAction dir = false := by
  cases hs : m'.socketDataMap.lookup s with
  | none =>
      rw [known_none hs]
      exact wants_none dir
  | some sd =>
      rw [known_tracked hs]
      rcases request_previous ht hwhat hn hs with ⟨-, he⟩ | ⟨hno, he⟩
      · rw [he]
        exact hdrop
      · rw [he]
        rcases hc halive hwhat with hall | hrec
        · cases hwants : wants (m.known s).previousAction dir with
          | false => rfl
          | true => exact absurd ((hall dir hwants).symm.trans hdrop) (by decide)
        · exact absurd hrec hno

/-- Without a request for its number, nothing is wanted that was not. -/
theorem known_kept (hnat : Native m) (ht : Tracking m) (ht' : Tracking m')
    (hn : m.next a = some m')
    (ha : ∀ what refusal oom, a = .socketCallback s what refusal oom → what = CURL_POLL_REMOVE)
    (h : wants (m.known s).previousAction dir = false) :
    wants (m'.known s).previousAction dir = false := by
  cases hs : m'.socketDataMap.lookup s with
  | none =>
      rw [known_none hs]
      exact wants_none dir
  | some sd =>
      obtain ⟨hs₀, hprevious⟩ := next_known hnat ht ht' hn hs ha
      rw [known_tracked hs₀] at h
      rw [known_tracked hs, hprevious]
      exact h

/-- Each wait a call starts is one that `ArmWaits` starts. -/
theorem ArmCall.starts (c : ArmCall) {w : Nat} (hle : c.state.asio.waits.next ≤ w)
    (hlt : w < c.after.asio.waits.next) : (c.after.wait w).fd = c.s ∧
      (c.state.data c.sd).Starts c.act c.oom (c.after.wait w).dir := by
  obtain ⟨hin, hdir⟩ := c.asked hle hlt
  obtain ⟨dir, hnew, hwants, harmed⟩ := c.new hle hlt
  rw [hnew] at hdir ⊢
  exact ⟨rfl, hwants, harmed, hin, hdir⟩

/-- What a step starts. -/
theorem next_starts (hn : m.next a = some m') {w : Nat} (hle : m.asio.waits.next ≤ w)
    (hlt : w < m'.asio.waits.next) : ∃ c, m.armCall a = some c ∧ (m'.wait w).fd = c.s ∧
      (c.state.data c.sd).Starts c.act c.oom (m'.wait w).dir := by
  obtain ⟨c, dir, hc, hthrough, -, -⟩ := (next_waits hn).2.2 w hle hlt
  rw [hthrough.asio] at hlt
  rw [← hthrough.rests.next_eq] at hle
  have hstarts := c.starts hle hlt
  refine ⟨c, hc, ?_⟩
  rw [wait, hthrough.asio]
  exact hstarts

/-- A heeded handler starts no wait of a direction that is not wanted of its number. -/
theorem Heeded.renewed {oom : Option Dir} (hc : Heeded m (.checkMultiInfoReturn oom))
    (hcall : m.armCall (.checkMultiInfoReturn oom) = some c)
    (hstarts : (c.state.data c.sd).Starts c.act c.oom dir) :
    wants (m.known c.s).previousAction dir = true := by
  have hrenews := armCall_renews hcall
  obtain ⟨dir₀, hh⟩ := hrenews.handler
  rw [hrenews.act_eq, hrenews.oom_eq, data, hrenews.data] at hstarts
  exact hc _ hh hrenews.removed hrenews.tracked dir hstarts

/-! ### The invariant -/

/-- How a dropped direction stands: nothing renews it, and its last wait may be out. -/
structure Dropped (s : Fd) (dir : Dir) (f : Fade) (m : CurlMulti) : Prop where
  reports_le : f.reports ≤ 1
  unarmed : ∀ w : Nat, f.since ≤ w → w < m.asio.waits.next →
    ¬((m.wait w).fd = s ∧ (m.wait w).dir = dir)
  previous : m.curlMulti = true → wants (m.known s).previousAction dir = false
  /-- A wait of a `SocketData` the number has lost is not reported. -/
  spent : f.reports = 1 → ∀ w : WaitId, (m.wait w).outstanding = true → (m.wait w).fd = s →
    (m.wait w).dir = dir → m.socketDataMap.lookup s ≠ some (m.wait w).sd

/-- A step that neither starts a wait of the direction nor reports it. -/
theorem Dropped.keep (h : Dropped s dir f m) (hnat : Native m) (ht : Tracking m)
    (ht' : Tracking m') (hn : m.next a = some m')
    (hprev : m'.curlMulti = true → wants (m'.known s).previousAction dir = false)
    (hno : ∀ w : Nat, m.asio.waits.next ≤ w → w < m'.asio.waits.next →
      (m'.wait w).fd = s → (m'.wait w).dir ≠ dir) : Dropped s dir f m' := by
  obtain ⟨-, hold, -⟩ := next_waits hn
  refine ⟨h.reports_le, fun w hsince hw => ?_, hprev, fun hone w hout hfd hdir hs => ?_⟩
  · by_cases hlt : w < m.asio.waits.next
    · obtain ⟨-, hdir, hfd, -⟩ := hold w hlt
      rw [hdir, hfd]
      exact h.unarmed w hsince hlt
    · exact fun hw' => hno w (Nat.le_of_not_lt hlt) hw hw'.1 hw'.2
  · rcases next_outstanding ht' hn hout with ⟨hout₀, -⟩ | ⟨hge, -⟩
    · obtain ⟨hlt, hsdLt⟩ := ht.waitLt hout₀
      obtain ⟨hsd₀, hdir₀, hfd₀, -⟩ := hold w hlt
      rw [hsd₀] at hs
      exact h.spent hone w hout₀ (hfd₀.symm.trans hfd) (hdir₀.symm.trans hdir)
        (next_tracked hnat ht ht' hn hs hsdLt)
    · exact hno w hge (ht'.waitLt hout).1 hfd hdir

/-- A request for another number, or a REMOVE. -/
theorem Dropped.elsewhere {s' : Fd} {what : CInt} {refusal : Kernel.Refusal} {oom : Option Dir}
    (h : Dropped s dir f m) (hnat : Native m) (ht : Tracking m) (ht' : Tracking m')
    (hn : m.next (.socketCallback s' what refusal oom) = some m')
    (hne : ¬(s' = s ∧ what ≠ CURL_POLL_REMOVE)) : Dropped s dir f m' := by
  refine h.keep hnat ht ht' hn (fun halive' => ?_) (fun w hle hlt hfd hdir => ?_)
  · refine known_kept hnat ht ht' hn (fun what' _ _ he => ?_) (h.previous (next_alive hn halive'))
    obtain ⟨rfl, rfl, -⟩ := Action.socketCallback.inj he
    by_contra hwhat
    exact hne ⟨rfl, hwhat⟩
  · obtain ⟨c, hc, hs, -⟩ := next_starts hn hle hlt
    obtain ⟨hwhat, -, -, hs', -⟩ := armCall_request hc
    exact hne ⟨(hs'.symm.trans hs.symm).trans hfd, hwhat⟩

/-- The number is asked for something else again. -/
theorem Dropped.again {what : CInt} {refusal : Kernel.Refusal} {oom : Option Dir}
    (h : Dropped s dir f m) (hnat : Native m) (ht : Tracking m) (ht' : Tracking m')
    (hc : Heeded m (.socketCallback s what refusal oom))
    (hn : m.next (.socketCallback s what refusal oom) = some m')
    (hwhat : what ≠ CURL_POLL_REMOVE) (hdrop : wants what dir = false) : Dropped s dir f m' := by
  refine h.keep hnat ht ht' hn (fun halive' => ?_) (fun w hle hlt _ hdir => ?_)
  · exact hc.dropped ht (next_alive hn halive') hn hwhat hdrop
  · obtain ⟨c, hcall, -, hstarts⟩ := next_starts hn hle hlt
    obtain ⟨-, -, -, -, hact, -⟩ := armCall_request hcall
    rw [hdir, hact] at hstarts
    exact absurd (hstarts.1.symm.trans hdrop) (by decide)

/-- The wait that was out when the direction was dropped is reported. -/
theorem Dropped.dispatch {w : WaitId} (h : Dropped s dir f m) (hnat : Native m)
    (ht : Tracking m) (ht' : Tracking m') (hn : m.next (.dispatch w) = some m') :
    Dropped s dir (if reports s dir m w m' then { f with reports := f.reports + 1 } else f)
      m' := by
  have hkeep : Dropped s dir f m' := by
    refine h.keep hnat ht ht' hn (fun halive' => ?_) (fun w' hle hlt _ _ => ?_)
    · exact known_kept hnat ht ht' hn (by simp) (h.previous (next_alive hn halive'))
    · obtain ⟨c, hcall, -⟩ := next_starts hn hle hlt
      simp [armCall] at hcall
  by_cases hrep : reports s dir m w m'
  · rw [if_pos hrep]
    obtain ⟨hfd, hdir, hsome⟩ := hrep
    obtain ⟨-, -, r, hst, hst', -⟩ := dispatch_log ht hn
    have hout : (m.wait w).outstanding = true := by
      unfold Wait.outstanding
      rw [hst]
    have htracked : m.socketDataMap.lookup s = some (m.wait w).sd := by
      obtain ⟨handler, hh⟩ := Option.isSome_iff_exists.mp hsome
      cases next_fires hn with
      | dispatch _ r hidle hst =>
          rw [← hfd]
          exact (asioSocketActionCallback_some hh hidle).2.2
    have hzero : f.reports = 0 := by
      have hne : f.reports ≠ 1 := fun hone => h.spent hone w hout hfd hdir htracked
      have hle := h.reports_le
      omega
    refine ⟨by simp [hzero], hkeep.unarmed, hkeep.previous, fun _ w' hout' _ hdir' hs' => ?_⟩
    -- it was the only one
    rcases next_outstanding ht' hn hout' with ⟨hout₀, hdir₀, hsd₀, -⟩ | ⟨-, c, -, hcall, -⟩
    · have hs₀ := next_tracked hnat ht ht' hn hs' (hsd₀ ▸ (ht.waitLt hout₀).2)
      rw [hsd₀, htracked] at hs₀
      have he : w' = w := Bound.unique ht ⟨hout₀, rfl, hdir₀.symm.trans hdir'⟩
        ⟨hout, Option.some.inj hs₀, hdir⟩
      have hdone : (m'.wait w).outstanding = false := by
        unfold Wait.outstanding
        rw [hst']
      rw [he] at hout'
      exact absurd (hdone.symm.trans hout') (by decide)
    · simp [armCall] at hcall
  · rw [if_neg hrep]
    exact hkeep

/-- What is noted of a direction fits the state. -/
theorem fade_step {b : Option Fade} (hb : ∀ f, b = some f → Dropped s dir f m) (hnat : Native m)
    (ht : Tracking m) (ht' : Tracking m') (hal : HandlerAlive m) (hc : Heeded m a)
    (hn : m.next a = some m') : ∀ f, noteFade s dir b m a m' = some f → Dropped s dir f m' := by
  intro f hf
  cases a with
  | socketCallback s' what refusal oom =>
      have hnote : (if s' = s ∧ what ≠ CURL_POLL_REMOVE then
          if wants what dir then none else some (b.getD ⟨m'.asio.waits.next, 0⟩)
        else b) = some f := hf
      by_cases hreq : s' = s ∧ what ≠ CURL_POLL_REMOVE
      · rw [if_pos hreq] at hnote
        obtain ⟨rfl, hwhat⟩ := hreq
        by_cases hwants : wants what dir = true
        · rw [if_pos hwants] at hnote
          simp at hnote
        · rw [if_neg hwants] at hnote
          have hdrop : wants what dir = false := Bool.not_eq_true _ ▸ hwants
          obtain rfl := Option.some.inj hnote
          cases hbf : b with
          | some f => exact (hb f hbf).again hnat ht ht' hc hn hwhat hdrop
          | none =>
              -- dropped in this step: nothing has been armed or reported since
              refine ⟨Nat.zero_le _, fun w hsince hlt => ?_, fun halive' => ?_, fun hone => ?_⟩
              · exact absurd hlt (Nat.not_lt.mpr hsince)
              · exact hc.dropped ht (next_alive hn halive') hn hwhat hdrop
              · exact absurd hone (by simp)
      · rw [if_neg hreq] at hnote
        exact (hb f hnote).elsewhere hnat ht ht' hn hreq
  | dispatch w =>
      have hnote : (if reports s dir m w m' then b.map fun f => { f with reports := f.reports + 1 }
        else b) = some f := hf
      by_cases hrep : reports s dir m w m'
      · rw [if_pos hrep] at hnote
        obtain ⟨f₀, hf₀, rfl⟩ := Option.map_eq_some_iff.mp hnote
        have hdrop := (hb f₀ hf₀).dispatch hnat ht ht' hn
        rwa [if_pos hrep] at hdrop
      · rw [if_neg hrep] at hnote
        have hdrop := (hb f hnote).dispatch hnat ht ht' hn
        rwa [if_neg hrep] at hdrop
  | checkMultiInfoReturn oom =>
      have hdrop := hb f hf
      refine hdrop.keep hnat ht ht' hn (fun halive' => ?_) (fun w hle hlt hfd hdir => ?_)
      · exact known_kept hnat ht ht' hn (by simp) (hdrop.previous (next_alive hn halive'))
      · obtain ⟨c, hcall, hs, hstarts⟩ := next_starts hn hle hlt
        obtain ⟨dir₀, hh⟩ := (armCall_renews hcall).handler
        have hwants := hc.renewed hcall hstarts
        rw [hdir, ← hs, hfd, hdrop.previous (hal (by rw [hh]; simp))] at hwants
        exact absurd hwants (by decide)
  | _ =>
      have hdrop := hb f hf
      refine hdrop.keep hnat ht ht' hn (fun halive' => ?_) (fun w hle hlt _ _ => ?_)
      · exact known_kept hnat ht ht' hn (by simp) (hdrop.previous (next_alive hn halive'))
      · obtain ⟨c, hcall, -⟩ := next_starts hn hle hlt
        simp [armCall] at hcall

/-- **A dropped direction fades out** in every run where `previous_action` follows the requests
that drop one, and a handler renews nothing that its number has dropped. -/
theorem dropped_fades_out (h : machine.Run Heeded tr m) : FadesOut tr m := by
  intro s dir f hf
  have hdrop : ∀ f, fading s dir tr = some f → Dropped s dir f m := by
    refine h.noted (P := fun b m => ∀ f, b = some f → Dropped s dir f m) ?_ ?_
    · intro f hf
      simp at hf
    · intro tr m a m' hr hP hc hn
      exact fade_step hP (native hr) (tracking hr) (tracking (.snoc hr hc hn))
        (run_handlerAlive hr) hc hn
  exact ⟨(hdrop f hf).reports_le, (hdrop f hf).unarmed⟩

/-- A connection that is told to write no more keeps its write wait for one report. -/
def fadingOut : List Action :=
  [.openSocketCallback .ipcxn .inet (some 5), .socketCallback 5 CURL_POLL_INOUT .none none,
   .socketCallback 5 CURL_POLL_IN .none none,
   .complete 1 .ok, .dispatch 1, .socketActionReturn 1, .checkMultiInfoReturn none]

def fadedOut : CurlMulti := (machine.exec Heeded boot fadingOut).get (by decide)

theorem dropped_fades_out_once : FadesOut fadingOut fadedOut :=
  dropped_fades_out (Machine.run_of_exec (Option.some_get _).symm)

example : fading 5 .pollOut fadingOut = some ⟨2, 1⟩ := by decide

/--
Inside the handler of its read wait, a connection is told to read no more by a CURL_POLL_NONE.
The handler renews the wait all the same, and so does the next one.
-/
def silencing : List Action :=
  [.openSocketCallback .ipcxn .inet (some 5), .socketCallback 5 CURL_POLL_IN .none none,
   .complete 0 .ok, .dispatch 0, .socketCallback 5 CURL_POLL_NONE .none none,
   .socketActionReturn 1, .checkMultiInfoReturn none,
   .complete 1 .ok, .dispatch 1, .socketActionReturn 1, .checkMultiInfoReturn none,
   .complete 2 .ok, .dispatch 2]

def silenced : CurlMulti := (machine.exec Machine.Free boot silencing).get (by decide)

theorem none_does_not_fade : machine.Run Machine.Free silencing silenced ∧
    ¬FadesOut silencing silenced := by
  refine ⟨Machine.run_of_exec (Option.some_get _).symm, fun hfades => ?_⟩
  have hf : fading 5 .pollIn silencing = some ⟨1, 2⟩ := by decide
  exact absurd (hfades 5 .pollIn ⟨1, 2⟩ hf).1 (by decide)

/-- The socket of 5 is closed under its handler, and another 5 is asked to write: the handler
would renew the read wait of the one that is gone. -/
def replaced : CurlMulti :=
  (machine.exec Heeded boot [.openSocketCallback .ipcxn .inet (some 5),
    .socketCallback 5 CURL_POLL_IN .none none, .complete 0 .ok, .dispatch 0,
    .closeSocketCallback 5, .openSocketCallback .ipcxn .inet (some 5),
    .socketCallback 5 CURL_POLL_OUT .none none, .socketActionReturn 1]).get (by decide)

example : ¬Heeded replaced (.checkMultiInfoReturn none) := by decide

end CurlMulti

end AmxxCurl
