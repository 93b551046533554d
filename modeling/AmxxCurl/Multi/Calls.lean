/-
When the socket layer calls libcurl.

libcurl calls the module back at any time; the module calls `curl_multi_socket_action`
from three places only, the handlers that `io_context` runs, and each of them looks at
`curl_multi_` first.  `DriveStep` says this of every step.  From it alone it follows that a
handler is on the stack only while the multi is there, and that after `Shutdown` whatever
is still queued (waits that complete, a timer that expires, posted tasks) runs without
touching libcurl.  That is what the module relies on when it shuts the multi down with
handlers outstanding.
-/
import AmxxCurl.Multi.Arming
import AmxxCurl.Lib.Progress

namespace AmxxCurl

/-- `curl_multi_socket_action`, for a socket or for the timeout, and `curl_multi_cleanup`. -/
def Event.isDriving : Event → Bool
  | .socketAction .. | .timeoutAction | .multiCleanup => true
  | _ => false

namespace CurlMulti

variable {m m' : CurlMulti} {a : Action}

/-- What libcurl's callbacks log. -/
abbrev NoDrive (e : Event) : Prop := e.isDriving = false

theorem Quiet.noDrive {e : Event} (h : Quiet e) : NoDrive e := by
  cases e with
  | assign s p => rfl
  | print => rfl
  | _ => exact h.elim

/-! ### What the callbacks log -/

theorem printUnlessDetached_log : Appends NoDrive m.log m.printUnlessDetached.log :=
  printUnlessDetached_emits.log.mono fun _ => Quiet.noDrive

theorem destroySocket_log (m : CurlMulti) (o : SockId) :
    Appends NoDrive m.log (m.destroySocket o).log := by
  unfold destroySocket
  dsimp only
  split
  · exact .refl _
  · split
    · exact .refl _
    · exact .one rfl

theorem evictStale_log (m : CurlMulti) (s : Fd) (o : SockId) :
    Appends NoDrive m.log (m.evictStale s o).1.log := by
  unfold evictStale
  split
  · exact .refl _
  · split
    · exact destroySocket_log m o
    · exact printUnlessDetached_log

theorem curlOpenSocketCallback_log (m : CurlMulti) (purpose : SockType) (family : Family)
    (reply : Option Fd) :
    Appends NoDrive m.log (m.curlOpenSocketCallback purpose family reply).1.log := by
  have hemplace : ∀ (m₁ : CurlMulti) (s : Fd) (o : SockId),
      Appends NoDrive m₁.log (m₁.emplaceSocket s o).log := by
    intro m₁ s o
    unfold emplaceSocket
    split
    · exact destroySocket_log m₁ o
    · exact .refl _
  unfold curlOpenSocketCallback
  split
  · split
    · exact .refl _
    · rename_i s
      split
      · exact .refl _
      · rename_i a o ha
        have hevict := evictStale_log { m with asio := a } s o
        split
        · rename_i m₁ e he
          rw [he] at hevict
          exact hevict
        · rename_i m₁ he
          rw [he] at hevict
          exact (hevict.trans (hemplace m₁ s o)).trans (.one rfl)
  · exact .refl _

theorem curlCloseSocketCallback_log (m : CurlMulti) (s : Fd) :
    Appends NoDrive m.log (m.curlCloseSocketCallback s).log := by
  unfold curlCloseSocketCallback
  dsimp only
  split
  · exact .refl _
  · exact destroySocket_log m _

/-! ### One step -/

/-- What a step does to the multi, to the calls that drive it and to the stack. -/
inductive DriveStep (m : CurlMulti) (a : Action) (m' : CurlMulti) : Prop
  /-- No call; a handler on the stack was there before. -/
  | quiet (hmulti : m'.curlMulti = m.curlMulti) (hlog : Appends NoDrive m.log m'.log)
      (hhandler : m.handler = none → m'.handler = none)
  /-- The handler of a wait starts and reports to libcurl, whose multi is there. -/
  | socket (w : WaitId) (s : Fd) (ev : Select) (ha : a = .dispatch w) (hlive : m.curlMulti = true)
      (hlive' : m'.curlMulti = true) (hlog : m'.log = m.log ++ [.socketAction w s ev])
  /-- So does the handler of the timer, or a posted task. -/
  | timeout (ha : (∃ i, a = .dispatchTimer i) ∨ a = .runPosted) (hlive : m.curlMulti = true)
      (hlive' : m'.curlMulti = true) (hlog : m'.log = m.log ++ [.timeoutAction])
  /-- `Shutdown` of a multi that is there. -/
  | cleanup (hlive : m.curlMulti = true) (hdead : m'.curlMulti = false)
      (hidle : m'.handler = none) (hlog : m'.log = m.log ++ [.multiCleanup])

theorem DriveStep.of_emits (h : Emits NoDrive m m') (hhandler : m'.handler = m.handler) :
    DriveStep m a m' :=
  .quiet h.curlMulti h.log fun hidle => hhandler.trans hidle

/-- The end of a handler. -/
theorem pollCatch_drives {x : CurlMulti × Except Exn Unit} (h : Emits NoDrive m x.1) :
    DriveStep m a (pollCatch x) := by
  have hcatch : Emits Quiet x.1 (pollCatch x) := pollCatch_emits
  have hall := h.trans (hcatch.mono fun _ => Quiet.noDrive)
  refine .quiet hall.curlMulti hall.log fun _ => ?_
  unfold pollCatch
  split <;> rfl

/-- A socket handler returns early, or finds the multi and calls libcurl. -/
theorem asioSocketActionCallback_drives (m : CurlMulti) (w : WaitId) (dir : Dir) (s : Fd)
    (sd : SocketDataId) (r : WaitResult) :
    ((m.asioSocketActionCallback w dir s sd r).curlMulti = m.curlMulti ∧
      (m.asioSocketActionCallback w dir s sd r).handler = m.handler ∧
      (m.asioSocketActionCallback w dir s sd r).log = m.log) ∨
    (m.curlMulti = true ∧ (m.asioSocketActionCallback w dir s sd r).curlMulti = true ∧
      ∃ ev, (m.asioSocketActionCallback w dir s sd r).log = m.log ++ [.socketAction w s ev]) := by
  unfold asioSocketActionCallback
  dsimp only
  split
  · exact Or.inl ⟨rfl, rfl, rfl⟩
  · rename_i hlive
    have hlive : m.curlMulti = true := by simpa using hlive
    repeat' split
    all_goals first | exact Or.inl ⟨rfl, rfl, rfl⟩ | exact Or.inr ⟨hlive, hlive, _, rfl⟩

/-- **Only a handler that finds the multi calls libcurl.** -/
theorem next_drives (hn : m.next a = some m') : DriveStep m a m' := by
  cases next_fires hn with
  | socketCallback s what refusal oom =>
      exact .of_emits (curlSocketCallback_emits.mono fun _ => Quiet.noDrive)
        (Aside.curlSocketCallback m s what refusal oom).handler
  | openSocketCallback purpose family reply hfree =>
      exact .quiet curlOpenSocketCallback_emits.curlMulti
        (curlOpenSocketCallback_log m purpose family reply) fun hidle =>
        (Aside.curlOpenSocketCallback m purpose family reply).handler.trans hidle
  | closeSocketCallback s =>
      exact .quiet curlCloseSocketCallback_emits.curlMulti (curlCloseSocketCallback_log m s)
        fun hidle => (Aside.curlCloseSocketCallback m s).handler.trans hidle
  | timerCallback t =>
      refine .of_emits curlTimerCallback_emits ?_
      unfold curlTimerCallback
      dsimp only
      repeat' split
      all_goals rfl
  | dispatch w r hidle hst =>
      rcases asioSocketActionCallback_drives { m with asio := m.asio.markDispatched w r } w
        (m.asio.waits.cell w).dir (m.asio.waits.cell w).fd (m.asio.waits.cell w).sd r with
        ⟨hmulti, hh, hlog⟩ | ⟨hlive, hlive', ev, hlog⟩
      · exact .quiet hmulti ⟨[], hlog.trans (List.append_nil _).symm, by simp⟩
          fun hidle => hh.trans hidle
      · exact .socket w _ ev rfl hlive hlive' hlog
  | dispatchTimer i r hidle hst =>
      unfold asioTimerCallback
      split
      · exact .quiet rfl (.refl _) id
      · split
        · exact .quiet rfl (.refl _) id
        · rename_i hlive
          have hlive : m.curlMulti = true := by simpa using hlive
          exact .timeout (Or.inl ⟨i, rfl⟩) hlive hlive rfl
  | runPosted hidle hposted =>
      unfold postedTask
      split
      · exact .quiet rfl (.refl _) id
      · rename_i hlive
        have hlive : m.curlMulti = true := by simpa using hlive
        exact .timeout (Or.inr rfl) hlive hlive rfl
  | socketActionReturn running dir s sd error hh =>
      exact .quiet rfl (.refl _) fun hidle => absurd (hidle.symm.trans hh) (by simp)
  | timerActionReturn running hh =>
      exact .quiet rfl (.refl _) fun hidle => absurd (hidle.symm.trans hh) (by simp)
  | socketReturn oom dir s sd error hh => exact pollCatch_drives rearm_emits
  | timerReturn oom hh => exact .quiet rfl (.refl _) fun _ => rfl
  | checkMultiInfoThrow hh => exact pollCatch_drives (.refl m)
  | shutdown hidle =>
      unfold shutdown
      split
      · rename_i hlive
        exact .cleanup hlive rfl hidle rfl
      · exact .quiet rfl (.refl _) id
  | _ => exact .quiet rfl (.refl _) id

/-! ### After `Shutdown` -/

variable {C : CurlMulti → Action → Prop} {tr tr' : List Action}

/-- A handler is on the stack only while the multi is there. -/
theorem run_handler (h : machine.Run C tr m) (hdead : m.curlMulti = false) : m.handler = none := by
  refine h.invariant (P := fun m => m.curlMulti = false → m.handler = none) (fun _ => rfl) ?_ hdead
  intro m a m' ih _ hn hdead
  cases next_drives hn with
  | quiet hmulti hlog hhandler => exact hhandler (ih (hmulti.symm.trans hdead))
  | socket w s ev ha hlive hlive' hlog => exact absurd (hlive'.symm.trans hdead) (by simp)
  | timeout ha hlive hlive' hlog => exact absurd (hlive'.symm.trans hdead) (by simp)
  | cleanup hlive hdead' hidle hlog => exact hidle

/-- `SetSock` asks for the multi before it arms anything. -/
theorem curlSocketCallback_waits (hdead : m.curlMulti = false) (s : Fd) (what : CInt)
    (refusal : Kernel.Refusal) (oom : Option Dir) :
    (m.curlSocketCallbackStatic s what refusal oom).1.asio.waits.next = m.asio.waits.next := by
  have hprint : ∀ m₁ : CurlMulti, m₁.printUnlessDetached.asio = m₁.asio := fun m₁ =>
    (Apart.printUnlessDetached m₁).asio
  have hset : ∀ (m₁ : CurlMulti) (sd : SocketDataId), m₁.curlMulti = false →
      (m₁.setSock what s sd oom).1 = m₁ := by
    intro m₁ sd hm₁
    unfold setSock
    rw [hm₁]
    rfl
  have hremove : ∀ sd, (m.removeSocket s sd).1.asio.waits.next = m.asio.waits.next := by
    intro sd
    unfold removeSocket
    split
    · rfl
    · split
      · split
        · rfl
        · rename_i a ha
          exact (Asio.cancels_release ha).waits_next
      · exact (Asio.cancels_cancel ..).waits_next
  have hadd : (m.addSocket s refusal).1.asio.waits.next = m.asio.waits.next ∧
      (m.addSocket s refusal).1.curlMulti = false := by
    refine ⟨?_, addSocket_emits.curlMulti.trans hdead⟩
    unfold addSocket
    split
    · rfl
    · dsimp only
      split
      · show (CurlMulti.printUnlessDetached _).asio.waits.next = _
        rw [hprint]
      · rename_i a o ha
        exact congrArg Heap.next (Asio.assignSocket_spec ha).2.2
  have hcallback : (m.curlSocketCallback s what refusal oom).1.asio.waits.next =
      m.asio.waits.next := by
    unfold curlSocketCallback
    split
    · split
      · rfl
      · exact hremove _
    · dsimp only
      split
      · split
        · rfl
        · rw [hset _ _ hdead]
      · split
        · rename_i m₁ he
          rw [he] at hadd
          exact hadd.1
        · rename_i m₁ sd he
          rw [he] at hadd
          split
          · exact hadd.1
          · rw [hset _ _ hadd.2]
            exact hadd.1
  unfold curlSocketCallbackStatic
  split
  · rename_i m₁ u he
    rw [he] at hcallback
    exact hcallback
  · rename_i m₁ e he
    rw [he] at hcallback
    rw [hprint]
    exact hcallback

/-- The open callback starts no wait. -/
theorem curlOpenSocketCallback_waits (m : CurlMulti) (purpose : SockType) (family : Family)
    (reply : Option Fd) :
    (m.curlOpenSocketCallback purpose family reply).1.asio.waits.next = m.asio.waits.next := by
  have hdestroy : ∀ (m₁ : CurlMulti) (o : SockId),
      (m₁.destroySocket o).asio.waits.next = m₁.asio.waits.next := by
    intro m₁ o
    rw [(Tracking.destroySocket_asio m₁ o).1]
    exact (Asio.cancels_destroy ..).waits_next
  have hevict : ∀ (m₁ : CurlMulti) (s : Fd) (o : SockId),
      (m₁.evictStale s o).1.asio.waits.next = m₁.asio.waits.next := by
    intro m₁ s o
    unfold evictStale
    split
    · rfl
    · split
      · exact hdestroy m₁ o
      · rename_i a ha
        rw [(Apart.printUnlessDetached _).asio]
        exact (Asio.cancels_release ha).waits_next
  have hemplace : ∀ (m₁ : CurlMulti) (s : Fd) (o : SockId),
      (m₁.emplaceSocket s o).asio.waits.next = m₁.asio.waits.next := by
    intro m₁ s o
    unfold emplaceSocket
    split
    · exact hdestroy m₁ o
    · rfl
  unfold curlOpenSocketCallback
  split
  · split
    · rfl
    · rename_i s
      split
      · rfl
      · rename_i a o ha
        have hstale := hevict { m with asio := a } s o
        have hopen : a.waits.next = m.asio.waits.next :=
          congrArg Heap.next (Asio.openSocket_spec ha).2.2
        split
        · rename_i m₁ e he
          rw [he] at hstale
          exact hstale.trans hopen
        · rename_i m₁ he
          rw [he] at hstale
          exact (hemplace m₁ s o).trans (hstale.trans hopen)
  · rfl

/-- Where nothing is on the stack and the multi is gone, no step starts a wait on a socket. -/
theorem next_waits_dead (hdead : m.curlMulti = false) (hidle : m.handler = none)
    (hn : m.next a = some m') : m'.asio.waits.next = m.asio.waits.next := by
  by_cases hnear : a.IsNear
  · cases next_fires hn with
    | socketCallback s what refusal oom => exact curlSocketCallback_waits hdead s what refusal oom
    | openSocketCallback purpose family reply hfree =>
        exact curlOpenSocketCallback_waits m purpose family reply
    | closeSocketCallback s =>
        unfold curlCloseSocketCallback
        dsimp only
        split
        · rfl
        · rename_i o _
          show (m.destroySocket o).asio.waits.next = _
          rw [(Tracking.destroySocket_asio m o).1]
          exact (Asio.cancels_destroy ..).waits_next
    | complete w r asio ha =>
        unfold Asio.complete at ha
        split at ha
        · obtain rfl := Option.some.inj ha
          rfl
        · simp at ha
    | dispatch w r _ hst =>
        unfold asioSocketActionCallback
        rw [if_pos (by simpa using hdead)]
        rfl
    | socketReturn oom dir s sd error hh => exact absurd (hidle.symm.trans hh) (by simp)
    | timerReturn oom hh => rfl
    | foreignOpen s hfree => rfl
    | foreignClose s => rfl
    | _ => exact hnear.elim
  · exact congrArg (fun x : Asio => x.waits.next) (next_apart hn hnear).asio

/-- The multi is cleaned up when it goes away, and at no other time. -/
theorem run_multiCleanup (h : machine.Run C tr m) :
    m.log.count .multiCleanup = if m.curlMulti then 0 else 1 := by
  refine h.invariant (P := fun m => m.log.count .multiCleanup = if m.curlMulti then 0 else 1) rfl ?_
  intro m a m' ih _ hn
  cases next_drives hn with
  | quiet hmulti hlog hhandler =>
      have hcount : m'.log.count .multiCleanup = m.log.count .multiCleanup := by
        refine hlog.countP_eq fun e he => ?_
        cases e with
        | multiCleanup => exact absurd he (by simp [Event.isDriving])
        | _ => rfl
      rw [hcount, hmulti, ih]
  | socket w s ev ha hlive hlive' hlog =>
      rw [hlive] at ih
      rw [hlive', hlog, List.count_append, ih]
      rfl
  | timeout ha hlive hlive' hlog =>
      rw [hlive] at ih
      rw [hlive', hlog, List.count_append, ih]
      rfl
  | cleanup hlive hdead hidle hlog =>
      rw [hlive] at ih
      rw [hdead, hlog, List.count_append, ih]
      rfl

/--
**What is left after `Shutdown` is inert.**  The multi has been cleaned up, once.  Whatever
is still queued then (waits that complete, the timer, posted tasks) and whatever libcurl
calls back in the meantime, nothing calls `curl_multi_socket_action` or
`curl_multi_cleanup` any more, no handler stays on the stack, and no wait on a socket is
started.
-/
theorem late_handlers_inert (h : machine.Run C tr m) (hdead : m.curlMulti = false)
    (h' : machine.Run C (tr ++ tr') m') :
    m'.curlMulti = false ∧ m'.handler = none ∧ m'.log.count .multiCleanup = 1 ∧
    m'.log.filter Event.isDriving = m.log.filter Event.isDriving ∧
    m'.asio.waits.next = m.asio.waits.next := by
  have hkeep : m'.curlMulti = false ∧
      m'.log.filter Event.isDriving = m.log.filter Event.isDriving ∧
      m'.asio.waits.next = m.asio.waits.next := by
    refine h.kept_on (P := fun m' => m'.curlMulti = false ∧
      m'.log.filter Event.isDriving = m.log.filter Event.isDriving ∧
      m'.asio.waits.next = m.asio.waits.next) ⟨hdead, rfl, rfl⟩ ?_ h'
    intro tr₁ m₁ a m₂ hr ⟨hdead₁, hlog₁, hwaits₁⟩ _ hn
    have hwaits := next_waits_dead hdead₁ (run_handler hr hdead₁) hn
    cases next_drives hn with
    | quiet hmulti hlog hhandler =>
        obtain ⟨es, hes, hquiet⟩ := hlog
        have hnone : es.filter Event.isDriving = [] := by
          refine List.filter_eq_nil_iff.mpr fun e he => ?_
          simp [hquiet e he]
        refine ⟨hmulti.trans hdead₁, ?_, hwaits.trans hwaits₁⟩
        rw [hes, List.filter_append, hnone, List.append_nil, hlog₁]
    | socket w s ev ha hlive hlive' hlog => exact absurd (hlive.symm.trans hdead₁) (by simp)
    | timeout ha hlive hlive' hlog => exact absurd (hlive.symm.trans hdead₁) (by simp)
    | cleanup hlive hdead' hidle hlog => exact absurd (hlive.symm.trans hdead₁) (by simp)
  obtain ⟨hdead', hlog, hwaits⟩ := hkeep
  refine ⟨hdead', run_handler h' hdead', ?_, hlog, hwaits⟩
  rw [run_multiCleanup h', hdead']
  rfl

/-- A connection is being read, a task is posted and the timer runs. -/
def queued : List Action :=
  [.openSocketCallback .ipcxn .inet (some 5), .socketCallback 5 CURL_POLL_IN .none none,
    .timerCallback 0, .timerCallback 20, .shutdown]

/-- All three fire after the multi is gone, and libcurl asks for the socket once more. -/
def straggling : List Action :=
  [.complete 0 .ok, .dispatch 0, .expire 0, .dispatchTimer 0, .runPosted,
    .socketCallback 5 CURL_POLL_INOUT .none none]

def shutDown : CurlMulti := (machine.exec Machine.Free boot queued).get (by decide)

def straggled : CurlMulti :=
  (machine.exec Machine.Free boot (queued ++ straggling)).get (by decide)

theorem late_handlers_inert_straggling :
    straggled.curlMulti = false ∧ straggled.handler = none ∧
    straggled.log.count .multiCleanup = 1 ∧
    straggled.log.filter Event.isDriving = shutDown.log.filter Event.isDriving ∧
    straggled.asio.waits.next = shutDown.asio.waits.next := by
  have hrun : machine.Run Machine.Free queued shutDown :=
    Machine.run_of_exec (Option.some_get _).symm
  have hrun' : machine.Run Machine.Free (queued ++ straggling) straggled :=
    Machine.run_of_exec (Option.some_get _).symm
  exact late_handlers_inert hrun (by decide) hrun'

end CurlMulti

end AmxxCurl
