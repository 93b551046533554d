/-
What each function of `CurlMulti` leaves alone.

`ArmWaits` touches two things: the waits, where it only adds, and the flags of the
one `SocketData` it is given.  `Arms` says so once; everything that reasons about a
run uses it instead of unfolding the function.  The callbacks are described by the
events they log: none of them calls `curl_multi_socket_action`, and only opening and
closing a socket logs anything about a file.
-/
import AmxxCurl.Multi.Tracking
import AmxxCurl.Lib.Appends

namespace AmxxCurl

namespace CurlMulti

variable {m m' m'' : CurlMulti}

/-! ### Arming -/

/-- `m'` is `m` with waits added for `sd`, each with its flag set. -/
structure Arms (sd : SocketDataId) (m m' : CurlMulti) : Prop where
  curlMulti : m'.curlMulti = m.curlMulti
  kernel : m'.asio.kernel = m.asio.kernel
  socks : m'.asio.socks = m.asio.socks
  socketMap : m'.socketMap = m.socketMap
  socketDataMap : m'.socketDataMap = m.socketDataMap
  handler : m'.handler = m.handler
  log : m'.log = m.log
  detached : m'.detached = m.detached
  next_le : m.asio.waits.next ≤ m'.asio.waits.next
  old : ∀ w : Nat, w < m.asio.waits.next → m'.wait w = m.wait w
  new : ∀ w : Nat, m.asio.waits.next ≤ w → w < m'.asio.waits.next →
    (m'.wait w).sd = sd ∧ (m'.data sd).armed (m'.wait w).dir = true
  other : ∀ sd', sd' ≠ sd → m'.data sd' = m.data sd'
  previous : (m'.data sd).previousAction = (m.data sd).previousAction
  ares : (m'.data sd).isAresSocket = (m.data sd).isAresSocket
  armed : ∀ dir, (m.data sd).armed dir = true → (m'.data sd).armed dir = true

namespace Arms

variable {sd : SocketDataId}

theorem refl (sd : SocketDataId) (m : CurlMulti) : Arms sd m m where
  curlMulti := rfl
  kernel := rfl
  socks := rfl
  socketMap := rfl
  socketDataMap := rfl
  handler := rfl
  log := rfl
  detached := rfl
  next_le := Nat.le_refl _
  old := fun _ _ => rfl
  new := fun _ hle hlt => absurd hlt (Nat.not_lt.mpr hle)
  other := fun _ _ => rfl
  previous := rfl
  ares := rfl
  armed := fun _ h => h

theorem trans (h : Arms sd m m') (h' : Arms sd m' m'') : Arms sd m m'' where
  curlMulti := h'.curlMulti.trans h.curlMulti
  kernel := h'.kernel.trans h.kernel
  socks := h'.socks.trans h.socks
  socketMap := h'.socketMap.trans h.socketMap
  socketDataMap := h'.socketDataMap.trans h.socketDataMap
  handler := h'.handler.trans h.handler
  log := h'.log.trans h.log
  detached := h'.detached.trans h.detached
  next_le := Nat.le_trans h.next_le h'.next_le
  old := fun w hw => (h'.old w (Nat.lt_of_lt_of_le hw h.next_le)).trans (h.old w hw)
  new := by
    intro w hle hlt
    by_cases hmid : w < m'.asio.waits.next
    · rw [h'.old w hmid]
      have hn := h.new w hle hmid
      exact ⟨hn.1, h'.armed _ hn.2⟩
    · exact h'.new w (Nat.le_of_not_lt hmid) hlt
  other := fun sd' hne => (h'.other sd' hne).trans (h.other sd' hne)
  previous := h'.previous.trans h.previous
  ares := h'.ares.trans h.ares
  armed := fun dir hd => h'.armed dir (h.armed dir hd)

end Arms

theorem armDir_arms {act : CInt} {s : Fd} {sd : SocketDataId} {o : SockId} {oom : Option Dir}
    {dir : Dir} : Arms sd m (m.armDir act s sd o oom dir).1 := by
  unfold armDir
  split
  · split
    · exact .refl sd m
    · refine ⟨rfl, rfl, rfl, rfl, rfl, rfl, rfl, rfl, Nat.le_succ _, ?_, ?_, ?_, ?_, ?_, ?_⟩
      · intro w hw
        exact Heap.alloc_cell_lt _ _ hw
      · intro w hle hlt
        obtain rfl : w = m.asio.waits.next := Nat.le_antisymm (Nat.lt_succ_iff.mp hlt) hle
        have hcell : (m.asio.asyncWait dir s sd o).waits.cell m.asio.waits.next
            = ⟨dir, s, sd, o, false, .pending⟩ := Heap.alloc_cell_next ..
        simp only [wait, data, hcell, Heap.modify_cell_self]
        exact ⟨trivial, by rw [Tracking.armed_setArmed, if_pos rfl]⟩
      · intro sd' hne
        show (m.socketData.modify sd fun d => d.setArmed dir true).cell sd' = _
        exact Heap.modify_cell_ne _ _ hne
      · simp [data, Tracking.setArmed_previousAction]
      · simp only [data, Heap.modify_cell_self]
        cases dir <;> rfl
      · intro dir' hd
        simp only [data, Heap.modify_cell_self]
        rw [Tracking.armed_setArmed]
        split
        · rfl
        · exact hd
  · exact .refl sd m

/-- Unless it throws, the direction is armed if it is wanted. -/
theorem armDir_armed {act : CInt} {s : Fd} {sd : SocketDataId} {o : SockId} {oom : Option Dir}
    {dir : Dir} (hok : (m.armDir act s sd o oom dir).2 = .ok ()) (hw : wants act dir = true) :
    ((m.armDir act s sd o oom dir).1.data sd).armed dir = true := by
  unfold armDir at hok ⊢
  split at hok
  · rename_i hc
    split at hok
    · simp at hok
    · rename_i hoom
      rw [if_pos hc, if_neg hoom]
      simp only [data, Heap.modify_cell_self]
      rw [Tracking.armed_setArmed, if_pos rfl]
  · rename_i hc
    rw [if_neg hc]
    simpa [hw] using hc

theorem armWaits_arms {act : CInt} {s : Fd} {sd : SocketDataId} {o : SockId}
    {oom : Option Dir} : Arms sd m (m.armWaits act s sd o oom).1 := by
  have hin : Arms sd m (m.armDir act s sd o oom .pollIn).1 := armDir_arms
  unfold armWaits
  split
  · rename_i m₁ e he
    rw [he] at hin
    exact hin
  · rename_i m₁ he
    rw [he] at hin
    exact hin.trans armDir_arms

/-- Unless it throws, every direction that is wanted ends up armed. -/
theorem armWaits_armed {act : CInt} {s : Fd} {sd : SocketDataId} {o : SockId} {oom : Option Dir}
    (hok : (m.armWaits act s sd o oom).2 = .ok ()) {dir : Dir} (hw : wants act dir = true) :
    ((m.armWaits act s sd o oom).1.data sd).armed dir = true := by
  unfold armWaits at hok ⊢
  split at hok
  · simp at hok
  · rename_i m₁ he
    cases dir with
    | pollIn =>
        have hok' : (m.armDir act s sd o oom .pollIn).2 = .ok () := by rw [he]
        have hin := armDir_armed hok' hw
        rw [he] at hin
        exact Arms.armed armDir_arms _ hin
    | pollOut => exact armDir_armed hok hw

/-- Nothing throws while there is memory. -/
theorem armWaits_ok (m : CurlMulti) (act : CInt) (s : Fd) (sd : SocketDataId) (o : SockId) :
    (m.armWaits act s sd o none).2 = .ok () := by
  have hdir : ∀ (m : CurlMulti) (dir : Dir), (m.armDir act s sd o none dir).2 = .ok () := by
    intro m dir
    unfold armDir
    split
    · rw [if_neg (by simp)]
    · rfl
  have hin := hdir m .pollIn
  unfold armWaits
  split
  · rename_i he
    rw [he] at hin
    simp at hin
  · exact hdir _ .pollOut

/-! ### What the callbacks log -/

/-- Neither a report to libcurl nor anything about a file. -/
def Quiet : Event → Prop
  | .assign _ _ => True
  | .print => True
  | _ => False

/-- No report to libcurl. -/
def NoReport : Event → Prop
  | .socketAction _ _ _ => False
  | _ => True

theorem Quiet.noReport {e : Event} (h : Quiet e) : NoReport e := by
  cases e <;> trivial

/--
Only events that satisfy `P` are logged, none of them a print once the flag is set; the
two flags and the dispatched waits stay.
-/
structure Emits (P : Event → Prop) (m m' : CurlMulti) : Prop where
  curlMulti : m'.curlMulti = m.curlMulti
  detached : m'.detached = m.detached
  waits : Asio.Ages m.asio m'.asio
  log : Appends P m.log m'.log
  silent : m.detached = true → Appends (· ≠ .print) m.log m'.log

namespace Emits

variable {P Q : Event → Prop}

theorem trans (h : Emits P m m') (h' : Emits P m' m'') : Emits P m m'' where
  curlMulti := h'.curlMulti.trans h.curlMulti
  detached := h'.detached.trans h.detached
  waits := h.waits.trans h'.waits
  log := h.log.trans h'.log
  silent := fun hd => (h.silent hd).trans (h'.silent (h.detached.trans hd))

theorem mono (h : Emits P m m') (hPQ : ∀ e, P e → Q e) : Emits Q m m' :=
  ⟨h.curlMulti, h.detached, h.waits, h.log.mono hPQ, h.silent⟩

/-- Nothing that `Emits` reads has changed but the waits. -/
theorem of_ages (hw : Asio.Ages m.asio m'.asio) (hc : m'.curlMulti = m.curlMulti)
    (hd : m'.detached = m.detached) (hl : m'.log = m.log) : Emits P m m' :=
  ⟨hc, hd, hw, by rw [hl]; exact .refl _, fun _ => by rw [hl]; exact .refl _⟩

theorem of_eq (hw : m'.asio.waits = m.asio.waits) (hc : m'.curlMulti = m.curlMulti)
    (hd : m'.detached = m.detached) (hl : m'.log = m.log) : Emits P m m' :=
  of_ages (.of_eq hw) hc hd hl

theorem refl (m : CurlMulti) : Emits P m m := of_eq rfl rfl rfl rfl

theorem push {e : Event} (he : P e) (hp : e ≠ .print) : Emits P m (m.push e) :=
  ⟨rfl, rfl, .of_eq rfl, .one he, fun _ => .one hp⟩

end Emits

theorem Arms.emits {P : Event → Prop} {sd : SocketDataId} (h : Arms sd m m') : Emits P m m' :=
  .of_ages ⟨h.next_le, fun w hw _ hr => (congrArg Wait.status (h.old w hw)).trans hr⟩
    h.curlMulti h.detached h.log

theorem printUnlessDetached_emits : Emits Quiet m m.printUnlessDetached := by
  unfold printUnlessDetached
  split
  · exact .refl m
  · rename_i hd
    exact ⟨rfl, rfl, .of_eq rfl, .one trivial, fun hset => absurd hset hd⟩

theorem setSock_emits {P : Event → Prop} {act : CInt} {s : Fd} {sd : SocketDataId}
    {oom : Option Dir} : Emits P m (m.setSock act s sd oom).1 := by
  unfold setSock
  split
  · exact .refl m
  · split
    · exact .refl m
    · rename_i o _
      have harm : Arms sd m (m.armWaits act s sd o oom).1 := armWaits_arms
      split
      · rename_i m₁ e he
        rw [he] at harm
        exact harm.emits
      · rename_i m₁ he
        rw [he] at harm
        exact harm.emits.trans (.of_eq rfl rfl rfl rfl)

theorem removeSocket_emits {s : Fd} {sd : SocketDataId} :
    Emits Quiet m (m.removeSocket s sd).1 := by
  unfold removeSocket
  split
  · exact ⟨rfl, rfl, .of_eq rfl, .one trivial, fun _ => .one (by simp)⟩
  · split
    · split
      · exact .refl m
      · rename_i ha
        exact ⟨rfl, rfl, (Asio.cancels_release ha).ages, .one trivial, fun _ => .one (by simp)⟩
    · exact ⟨rfl, rfl, (Asio.cancels_cancel ..).ages, .one trivial, fun _ => .one (by simp)⟩

theorem addSocket_emits {s : Fd} {refusal : Kernel.Refusal} :
    Emits Quiet m (m.addSocket s refusal).1 := by
  unfold addSocket
  split
  · exact ⟨rfl, rfl, .of_eq rfl, .one trivial, fun _ => .one (by simp)⟩
  · dsimp only
    split
    · have hgrow : Emits Quiet m { m with
          socketData := m.socketData.alloc { isAresSocket := true } } := .of_eq rfl rfl rfl rfl
      exact (hgrow.trans printUnlessDetached_emits).trans
        (.push (e := .assign s none) trivial (by simp))
    · rename_i ha
      exact ⟨rfl, rfl, .of_eq (Asio.assignSocket_spec ha).2.2, .one trivial,
        fun _ => .one (by simp)⟩

theorem curlSocketCallback_emits {s : Fd} {what : CInt} {refusal : Kernel.Refusal}
    {oom : Option Dir} : Emits Quiet m (m.curlSocketCallbackStatic s what refusal oom).1 := by
  have hcb : Emits Quiet m (m.curlSocketCallback s what refusal oom).1 := by
    unfold curlSocketCallback
    split
    · split
      · exact .refl m
      · exact removeSocket_emits
    · dsimp only
      split
      · split
        · exact .refl m
        · exact setSock_emits
      · have hadd : Emits Quiet m (m.addSocket s refusal).1 := addSocket_emits
        split
        · rename_i m₁ he
          rw [he] at hadd
          exact hadd
        · rename_i m₁ sd he
          rw [he] at hadd
          split
          · exact hadd
          · exact hadd.trans setSock_emits
  unfold curlSocketCallbackStatic
  split
  · rename_i m₁ u he
    rw [he] at hcb
    exact hcb
  · rename_i m₁ e he
    rw [he] at hcb
    exact hcb.trans printUnlessDetached_emits

theorem destroySocket_emits {o : SockId} : Emits NoReport m (m.destroySocket o) := by
  have hw : Asio.Ages m.asio (m.asio.destroy o) := (Asio.cancels_destroy ..).ages
  unfold destroySocket
  dsimp only
  split
  · exact .of_ages hw rfl rfl rfl
  · split
    · exact .of_ages hw rfl rfl rfl
    · exact ⟨rfl, rfl, hw, .one trivial, fun _ => .one (by simp)⟩

theorem evictStale_emits {s : Fd} {o : SockId} : Emits NoReport m (m.evictStale s o).1 := by
  unfold evictStale
  split
  · exact .refl m
  · split
    · exact destroySocket_emits
    · rename_i a ha
      have hevict : Emits NoReport m { m with
          asio := a
          socketMap := m.socketMap.erase s
          socketDataMap := m.socketDataMap.erase s } :=
        .of_ages (Asio.cancels_release ha).ages rfl rfl rfl
      exact hevict.trans (Emits.mono printUnlessDetached_emits fun _ => Quiet.noReport)

theorem emplaceSocket_emits {s : Fd} {o : SockId} : Emits NoReport m (m.emplaceSocket s o) := by
  unfold emplaceSocket
  split
  · exact destroySocket_emits
  · exact .of_eq rfl rfl rfl rfl

theorem curlOpenSocketCallback_emits {purpose : SockType} {family : Family}
    {reply : Option Fd} : Emits NoReport m (m.curlOpenSocketCallback purpose family reply).1 := by
  unfold curlOpenSocketCallback
  split
  · split
    · exact .refl m
    · rename_i s
      split
      · exact .refl m
      · rename_i a o ha
        have hev := evictStale_emits (m := { m with asio := a }) (s := s) (o := o)
        have hgrow : Emits NoReport m { m with asio := a } :=
          .of_eq (Asio.openSocket_spec ha).2.2 rfl rfl rfl
        split
        · rename_i m₁ e he
          rw [he] at hev
          exact hgrow.trans hev
        · rename_i m₁ he
          rw [he] at hev
          exact ((hgrow.trans hev).trans emplaceSocket_emits).trans (.push trivial (by simp))
  · exact .refl m

theorem curlCloseSocketCallback_emits {s : Fd} :
    Emits NoReport m (m.curlCloseSocketCallback s) := by
  unfold curlCloseSocketCallback
  dsimp only
  split
  · exact .of_eq rfl rfl rfl rfl
  · exact Emits.trans destroySocket_emits (.of_eq rfl rfl rfl rfl)

theorem curlTimerCallback_emits {P : Event → Prop} {t : Int} :
    Emits P m (m.curlTimerCallback t) := by
  unfold curlTimerCallback
  dsimp only
  split
  · exact .of_eq rfl rfl rfl rfl
  · split <;> exact .of_eq rfl rfl rfl rfl

theorem asioTimerCallback_emits {r : WaitResult} :
    Emits NoReport m (m.asioTimerCallback r) := by
  unfold asioTimerCallback
  split
  · exact .refl m
  · split
    · exact .refl m
    · exact ⟨rfl, rfl, .of_eq rfl, .one trivial, fun _ => .one (by simp)⟩

theorem postedTask_emits : Emits NoReport m m.postedTask := by
  unfold postedTask
  split
  · exact .refl m
  · exact ⟨rfl, rfl, .of_eq rfl, .one trivial, fun _ => .one (by simp)⟩

theorem rearm_emits {P : Event → Prop} {s : Fd} {sd : SocketDataId} {error : Bool}
    {oom : Option Dir} : Emits P m (m.rearm s sd error oom).1 := by
  unfold rearm
  dsimp only
  have hcancel : Emits P m (if m.runningHandles ≤ 0 then m.cancelTimer else m) := by
    split <;> exact .of_eq rfl rfl rfl rfl
  generalize (if m.runningHandles ≤ 0 then m.cancelTimer else m) = m₁ at hcancel ⊢
  split
  · exact hcancel
  · split
    · exact hcancel.trans (Arms.emits armWaits_arms)
    · exact hcancel

theorem pollCatch_emits {x : CurlMulti × Except Exn Unit} :
    Emits Quiet x.1 (pollCatch x) := by
  unfold pollCatch
  split
  · exact .of_eq rfl rfl rfl rfl
  · exact Emits.trans printUnlessDetached_emits (.of_eq rfl rfl rfl rfl)

/-! ### One step of the machine -/

/-- A step that dispatches no socket handler reports nothing; `shutdown` and `detach` aside,
it leaves the two flags. -/
theorem next_emits {a : Action} (hn : m.next a = some m') (hdispatch : ∀ w, a ≠ .dispatch w)
    (hdetach : a ≠ .detach) (hshutdown : a ≠ .shutdown) : Emits NoReport m m' := by
  cases next_fires hn with
  | socketCallback s what refusal oom =>
      exact Emits.mono curlSocketCallback_emits fun _ => Quiet.noReport
  | openSocketCallback purpose family reply hfree => exact curlOpenSocketCallback_emits
  | closeSocketCallback s => exact curlCloseSocketCallback_emits
  | timerCallback t => exact curlTimerCallback_emits
  | complete w r asio ha => exact .of_ages (Asio.ages_complete ha) rfl rfl rfl
  | dispatch w r hidle hst => exact absurd rfl (hdispatch w)
  | dispatchTimer t r hidle hst =>
      have hmark : ∀ x, Emits NoReport m { m with timer := x } := fun _ => .of_eq rfl rfl rfl rfl
      exact (hmark _).trans asioTimerCallback_emits
  | runPosted hidle hposted =>
      have htake : Emits NoReport m { m with posted := m.posted - 1 } := .of_eq rfl rfl rfl rfl
      exact htake.trans postedTask_emits
  | socketReturn oom dir s sd error hh =>
      exact Emits.trans rearm_emits (Emits.mono pollCatch_emits fun _ => Quiet.noReport)
  | checkMultiInfoThrow hh =>
      exact (pollCatch_emits (x := (m, .error .badAlloc))).mono fun _ => Quiet.noReport
  | detach => exact absurd rfl hdetach
  | shutdown hidle => exact absurd rfl hshutdown
  | _ => exact .of_eq rfl rfl rfl rfl

/-- The start of a socket handler logs at most its one report, and keeps both flags. -/
theorem asioSocketActionCallback_cases (m : CurlMulti) (w : WaitId) (dir : Dir) (s : Fd)
    (sd : SocketDataId) (r : WaitResult) :
    (m.asioSocketActionCallback w dir s sd r).curlMulti = m.curlMulti ∧
    (m.asioSocketActionCallback w dir s sd r).detached = m.detached ∧
    ((m.asioSocketActionCallback w dir s sd r).log = m.log ∧
        (m.curlMulti = true → r ≠ .aborted → m.socketDataMap.lookup s = some sd →
          m.socketMap.lookup s = none) ∨
      (m.asioSocketActionCallback w dir s sd r).log
          = m.log ++ [.socketAction w s (if r = .error then .selectErr else dir.select)] ∧
        m.curlMulti = true ∧ r ≠ .aborted ∧ m.socketDataMap.lookup s = some sd ∧
        (m.socketMap.lookup s).isSome) := by
  unfold asioSocketActionCallback
  dsimp only
  split
  · rename_i hdead
    refine ⟨rfl, rfl, Or.inl ⟨rfl, fun hal => ?_⟩⟩
    simp [hal] at hdead
  · rename_i halive
    split
    · rename_i hab
      exact ⟨rfl, rfl, Or.inl ⟨rfl, fun _ hr => absurd hab hr⟩⟩
    · rename_i hab
      split
      · rename_i hnone
        exact ⟨rfl, rfl, Or.inl ⟨rfl, fun _ _ _ => hnone⟩⟩
      · rename_i hsock
        split
        · rename_i huntracked
          exact ⟨rfl, rfl, Or.inl ⟨rfl, fun _ _ hs => absurd hs huntracked⟩⟩
        · rename_i htracked
          refine ⟨rfl, rfl, Or.inr ⟨rfl, by simpa using halive, hab, by simpa using htracked, ?_⟩⟩
          exact Option.isSome_iff_ne_none.mpr hsock

/-- A multi that has been shut down stays down. -/
theorem next_alive {a : Action} (hn : m.next a = some m') (halive : m'.curlMulti = true) :
    m.curlMulti = true := by
  by_cases hd : ∃ w, a = .dispatch w
  · obtain ⟨w, rfl⟩ := hd
    cases next_fires hn with
    | dispatch _ r hidle hst =>
        rw [(asioSocketActionCallback_cases ..).1] at halive
        exact halive
  · by_cases hdetach : a = .detach
    · subst hdetach
      obtain rfl := Option.some.inj hn
      exact halive
    · by_cases hs : a = .shutdown
      · subst hs
        cases next_fires hn with
        | shutdown hidle =>
            unfold shutdown at halive
            split at halive
            · simp at halive
            · exact halive
      · rw [(next_emits hn (fun w hw => hd ⟨w, hw⟩) hdetach hs).curlMulti] at halive
        exact halive

end CurlMulti

end AmxxCurl
