/-
No readiness is left unwatched.

A direction libcurl has asked for is watched when its flag is set, and by
`Tracking` a set flag means an outstanding wait on the socket object of that fd.
What has to be shown is that flags are not lost: the handler that clears one renews
it before it returns, and in between, while libcurl runs, that one direction is the
only hole.  `Covered` names the three ways a wanted direction may stand: armed,
failed and reported as such, or in the hands of the handler on the stack.

The renewal reads `removed_sockets_` and both maps, and holds the `SocketData` it
was bound to.  It goes through whenever that object is still tracked: REMOVE is the
only way into `removed_sockets_`, and it untracks the object for good.
-/
import AmxxCurl.Multi.Frames

namespace AmxxCurl

namespace CurlMulti

variable {m m' : CurlMulti}

/-- The last wait of this direction on `sd` failed, and libcurl was told so. -/
def Failed (m : CurlMulti) (s : Fd) (sd : SocketDataId) (dir : Dir) : Prop :=
  ∃ w : Nat, w < m.asio.waits.next ∧ (m.wait w).sd = sd ∧ (m.wait w).dir = dir ∧
    (m.wait w).status = .dispatched .error ∧
    (∀ w' : Nat, w' < m.asio.waits.next → (m.wait w').sd = sd → (m.wait w').dir = dir → w' ≤ w) ∧
    .socketAction w s .selectErr ∈ m.log

/-- A wanted direction is armed, failed, or being served by the handler on the stack. -/
def Covered (m : CurlMulti) (s : Fd) (sd : SocketDataId) (dir : Dir) : Prop :=
  (m.data sd).armed dir = true ∨ m.Failed s sd dir ∨
    ∃ phase, m.handler = some (.socket dir s sd false phase)

/-- Every direction libcurl wants of a tracked socket is covered. -/
def Coverage (m : CurlMulti) : Prop :=
  ∀ ⦃s sd dir⦄, m.socketDataMap.lookup s = some sd →
    wants (m.data sd).previousAction dir = true → m.Covered s sd dir

/-- No C++ exception: no `async_wait` runs out of memory, no completion callback throws. -/
def NoThrow : CurlMulti → Action → Prop
  | _, .socketCallback _ _ _ oom => oom = none
  | _, .checkMultiInfoReturn oom => oom = none
  | _, .checkMultiInfoThrow => False
  | _, _ => True

instance : ∀ m a, Decidable (NoThrow m a)
  | _, .socketCallback _ _ _ oom => inferInstanceAs (Decidable (oom = none))
  | _, .checkMultiInfoReturn oom => inferInstanceAs (Decidable (oom = none))
  | _, .checkMultiInfoThrow => .isFalse id
  | _, .openSocketCallback .. | _, .closeSocketCallback _ | _, .timerCallback _
  | _, .complete .. | _, .dispatch _ | _, .expire _ | _, .dispatchTimer _ | _, .runPosted
  | _, .socketActionReturn _ | _, .foreignOpen _ | _, .foreignClose _ | _, .detach
  | _, .shutdown => .isTrue trivial

/-! ### What a failure needs to stay one -/

/-- The waits of `(sd, dir)` and their results are the same, and the log has grown. -/
theorem Failed.mono {s : Fd} {sd : SocketDataId} {dir : Dir} (h : m.Failed s sd dir)
    (hnext : m.asio.waits.next ≤ m'.asio.waits.next)
    (hold : ∀ w : Nat, w < m.asio.waits.next → (m'.wait w).sd = (m.wait w).sd ∧
      (m'.wait w).dir = (m.wait w).dir ∧
      ((m.wait w).status = .dispatched .error → (m'.wait w).status = .dispatched .error))
    (hnew : ∀ w : Nat, m.asio.waits.next ≤ w → w < m'.asio.waits.next →
      ¬((m'.wait w).sd = sd ∧ (m'.wait w).dir = dir))
    (hlog : ∀ e, e ∈ m.log → e ∈ m'.log) : m'.Failed s sd dir := by
  obtain ⟨w, hlt, hsd, hdir, hst, hlast, hrep⟩ := h
  obtain ⟨h1, h2, h3⟩ := hold w hlt
  refine ⟨w, Nat.lt_of_lt_of_le hlt hnext, h1.trans hsd, h2.trans hdir, h3 hst, ?_, hlog _ hrep⟩
  intro w' hlt' hsd' hdir'
  by_cases hw' : w' < m.asio.waits.next
  · obtain ⟨h1', h2', -⟩ := hold w' hw'
    exact hlast w' hw' (h1'.symm.trans hsd') (h2'.symm.trans hdir')
  · exact absurd ⟨hsd', hdir'⟩ (hnew w' (Nat.le_of_not_lt hw') hlt')

/-- Arming keeps what is covered covered: a new wait comes with its flag. -/
theorem Covered.arms {s : Fd} {sd sd' : SocketDataId} {dir : Dir} (h : m.Covered s sd' dir)
    (ha : Arms sd m m') : m'.Covered s sd' dir := by
  rcases h with h | h | ⟨phase, h⟩
  · by_cases hne : sd' = sd
    · subst hne
      exact Or.inl (ha.armed dir h)
    · exact Or.inl (by rw [ha.other sd' hne]; exact h)
  · by_cases hnow : (m'.data sd').armed dir = true
    · exact Or.inl hnow
    · refine Or.inr (Or.inl (h.mono ha.next_le ?_ ?_ ?_))
      · intro w hw
        rw [ha.old w hw]
        exact ⟨rfl, rfl, id⟩
      · rintro w hle hlt ⟨rfl, rfl⟩
        obtain ⟨he, hd⟩ := ha.new w hle hlt
        rw [← he] at hd
        exact hnow hd
      · intro e he
        rw [ha.log]
        exact he
  · exact Or.inr (Or.inr ⟨phase, by rw [ha.handler]; exact h⟩)

/-- Cancelled waits and untracked numbers uncover nothing that is left. -/
theorem Covered.cancels {s : Fd} {sd : SocketDataId} {dir : Dir} {o : SockId}
    (h : m.Covered s sd dir) (hc : Asio.Cancels o m.asio m'.asio)
    (hsd : m'.data sd = m.data sd) (hh : m'.handler = m.handler)
    (hlog : ∀ e, e ∈ m.log → e ∈ m'.log) : m'.Covered s sd dir := by
  rcases h with h | h | ⟨phase, h⟩
  · exact Or.inl (by rw [hsd]; exact h)
  · refine Or.inr (Or.inl (h.mono (Nat.le_of_eq hc.waits_next.symm) ?_ ?_ hlog))
    · intro w _
      rcases hc.cell w with he | ⟨-, he⟩ <;> rw [wait, he] <;> exact ⟨rfl, rfl, id⟩
    · intro w hle hlt
      rw [hc.waits_next] at hlt
      exact absurd hlt (Nat.not_lt.mpr hle)
  · exact Or.inr (Or.inr ⟨phase, by rw [hh]; exact h⟩)

theorem Covered.of_eq {s : Fd} {sd : SocketDataId} {dir : Dir} (h : m.Covered s sd dir)
    (hsd : m'.data sd = m.data sd) (hw : m'.asio.waits = m.asio.waits)
    (hh : m'.handler = m.handler) (hlog : ∀ e, e ∈ m.log → e ∈ m'.log) :
    m'.Covered s sd dir := by
  rcases h with h | h | ⟨phase, h⟩
  · exact Or.inl (by rw [hsd]; exact h)
  · refine Or.inr (Or.inl (h.mono (by rw [hw]) ?_ ?_ hlog))
    · intro w _
      rw [wait, hw]
      exact ⟨rfl, rfl, id⟩
    · intro w hle hlt
      rw [hw] at hlt
      exact absurd hlt (Nat.not_lt.mpr hle)
  · exact Or.inr (Or.inr ⟨phase, by rw [hh]; exact h⟩)

namespace Coverage

theorem of_eq (h : Coverage m) (hdata : m'.socketDataMap = m.socketDataMap)
    (hsd : m'.socketData = m.socketData) (hw : m'.asio.waits = m.asio.waits)
    (hh : m'.handler = m.handler) (hlog : ∀ e, e ∈ m.log → e ∈ m'.log) : Coverage m' := by
  intro s sd dir hs hwant
  rw [hdata] at hs
  rw [data, hsd] at hwant
  exact (h hs hwant).of_eq (by rw [data, hsd]) hw hh hlog

theorem push (h : Coverage m) (e : Event) : Coverage (m.push e) :=
  h.of_eq rfl rfl rfl rfl fun _ he => List.mem_append_left _ he

theorem printUnlessDetached (h : Coverage m) : Coverage m.printUnlessDetached := by
  unfold CurlMulti.printUnlessDetached
  split
  · exact h
  · exact h.push .print

/-- Arming more uncovers nothing. -/
theorem arms {sd : SocketDataId} (h : Coverage m) (harms : Arms sd m m') : Coverage m' := by
  intro s sd' dir hs hwant
  rw [harms.socketDataMap] at hs
  have hprev : (m'.data sd').previousAction = (m.data sd').previousAction := by
    by_cases he : sd' = sd
    · rw [he]
      exact harms.previous
    · rw [harms.other sd' he]
  rw [hprev] at hwant
  exact (h hs hwant).arms harms

/-! ### The callbacks -/

/-- `SetSock` arms every direction it records as wanted, and one that throws records none. -/
theorem setSock {act : CInt} {s : Fd} {sd : SocketDataId} {oom : Option Dir} (h : Coverage m)
    (ht : Tracking m) (hs : m.socketDataMap.lookup s = some sd) (halive : m.curlMulti = true) :
    Coverage (m.setSock act s sd oom).1 := by
  unfold CurlMulti.setSock
  rw [if_neg (by simp [halive])]
  obtain ⟨o, ho⟩ := ht.dataSock hs
  rw [ho]
  dsimp only
  have harms : Arms sd m (m.armWaits act s sd o oom).1 := armWaits_arms
  split
  · rename_i m₁ e he
    rw [he] at harms
    exact h.arms harms
  · rename_i m₁ he
    have harmed : ∀ {dir}, wants act dir = true → (m₁.data sd).armed dir = true := by
      intro dir hw
      have hdir := armWaits_armed (m := m) (s := s) (o := o) (by rw [he]) hw
      rwa [he] at hdir
    rw [he] at harms
    intro s' sd' dir hs' hwant
    have hkeep : ∀ {sd'' : SocketDataId}, sd'' ≠ sd →
        (m₁.socketData.modify sd fun d => { d with previousAction := act }).cell sd''
          = m₁.data sd'' := Heap.modify_cell_ne _ _
    by_cases hne : sd' = sd
    · subst hne
      -- the directions of `act` are armed, and those are the ones now wanted
      refine Or.inl ?_
      simp only [data, Heap.modify_cell_self] at hwant ⊢
      have hdir := harmed hwant
      cases dir <;> exact hdir
    · change (m₁.socketDataMap.lookup s' = some sd') at hs'
      simp only [data, hkeep hne] at hwant
      exact ((h.arms harms) hs' hwant).of_eq (hkeep hne) rfl rfl fun _ => id

theorem removeSocket {s : Fd} {sd : SocketDataId} (h : Coverage m) :
    Coverage (m.removeSocket s sd).1 := by
  have herase : ∀ {s' sd'}, (m.socketDataMap.erase s).lookup s' = some sd' →
      m.socketDataMap.lookup s' = some sd' :=
    fun hs => (Table.lookup_erase_eq_some.mp hs).2
  unfold CurlMulti.removeSocket
  split
  · intro s' sd' dir hs' hwant
    exact (h (herase hs') hwant).of_eq rfl rfl rfl fun _ he => List.mem_append_left _ he
  · rename_i o _
    split
    · split
      · exact h
      · rename_i a ha
        intro s' sd' dir hs' hwant
        exact (h (herase hs') hwant).cancels (o := o) (Asio.cancels_release ha) rfl rfl
          fun _ he => List.mem_append_left _ he
    · intro s' sd' dir hs' hwant
      exact (h (herase hs') hwant).cancels (o := o) (Asio.cancels_cancel ..) rfl rfl
        fun _ he => List.mem_append_left _ he

/-- libcurl has not asked anything of a new `SocketData` yet. -/
theorem trackNew {s : Fd} {d : SocketData} (h : Coverage m) (ht : Tracking m)
    (hd : d.previousAction = CURL_POLL_NONE) {a : Asio} (ha : a.waits = m.asio.waits)
    {socketMap : Table Fd SockId} :
    Coverage { m with
      asio := a
      socketMap := socketMap
      socketData := m.socketData.alloc d
      socketDataMap := m.socketDataMap.insert s m.socketData.next } := by
  intro s' sd dir hs hwant
  rcases Table.lookup_insert_eq_some.mp hs with ⟨-, rfl⟩ | ⟨-, hold⟩
  · simp only [data, Heap.alloc_cell_next, hd] at hwant
    cases dir <;> exact absurd hwant (by decide)
  · have hcell : (m.socketData.alloc d).cell sd = m.data sd :=
      Heap.alloc_cell_lt _ _ (ht.dataLt hold)
    simp only [data, hcell] at hwant
    exact (h hold hwant).of_eq hcell ha rfl fun _ => id

theorem allocData (h : Coverage m) (ht : Tracking m) {d : SocketData} :
    Coverage { m with socketData := m.socketData.alloc d } := by
  intro s sd dir hs hwant
  have hcell : (m.socketData.alloc d).cell sd = m.data sd :=
    Heap.alloc_cell_lt _ _ (ht.dataLt hs)
  simp only [data, hcell] at hwant
  exact (h hs hwant).of_eq hcell rfl rfl fun _ => id

theorem addSocket {s : Fd} {refusal : Kernel.Refusal} (h : Coverage m) (ht : Tracking m) :
    Coverage (m.addSocket s refusal).1 := by
  unfold CurlMulti.addSocket
  split
  · exact (h.trackNew (d := {}) ht rfl (a := m.asio) rfl).push _
  · dsimp only
    split
    · exact (h.allocData ht).printUnlessDetached.push _
    · rename_i a o ha
      exact (h.trackNew (d := { isAresSocket := true }) ht rfl
        (Asio.assignSocket_spec ha).2.2).push _

theorem curlSocketCallback {s : Fd} {what : CInt} {refusal : Kernel.Refusal} {oom : Option Dir}
    (h : Coverage m) (ht : Tracking m) (halive : m.curlMulti = true) :
    Coverage (m.curlSocketCallbackStatic s what refusal oom).1 := by
  have hcb : Coverage (m.curlSocketCallback s what refusal oom).1 := by
    unfold CurlMulti.curlSocketCallback
    split
    · split
      · exact h
      · exact h.removeSocket
    · dsimp only
      split
      · rename_i sd hs
        split
        · exact h
        · exact h.setSock ht hs halive
      · have hadd : Coverage (m.addSocket s refusal).1 := h.addSocket ht
        have htrack : Tracking (m.addSocket s refusal).1 := ht.addSocket
        have hal : (m.addSocket s refusal).1.curlMulti = m.curlMulti := addSocket_emits.curlMulti
        split
        · rename_i m₁ he
          rw [he] at hadd
          exact hadd
        · rename_i m₁ sd he
          rw [he] at hadd htrack hal
          split
          · exact hadd
          · exact hadd.setSock htrack (Tracking.addSocket_tracked he) (hal.trans halive)
  unfold CurlMulti.curlSocketCallbackStatic
  split
  · rename_i m₁ u he
    rw [he] at hcb
    exact hcb
  · rename_i m₁ e he
    rw [he] at hcb
    exact hcb.printUnlessDetached

theorem destroySocket {o : SockId} (h : Coverage m) : Coverage (m.destroySocket o) := by
  obtain ⟨hasio, -, hdata, hsd, hh, -⟩ := Tracking.destroySocket_asio m o
  intro s sd dir hs hwant
  rw [hdata] at hs
  rw [data, hsd] at hwant
  refine (h hs hwant).cancels (o := o) ?_ (by rw [data, hsd]) hh fun _ he =>
    destroySocket_emits.log.mem he
  rw [hasio]
  exact Asio.cancels_destroy ..

theorem evictStale {s : Fd} {o : SockId} (h : Coverage m) : Coverage (m.evictStale s o).1 := by
  unfold CurlMulti.evictStale
  split
  · exact h
  · rename_i stale _
    split
    · exact h.destroySocket
    · rename_i a ha
      refine Coverage.printUnlessDetached ?_
      intro s' sd dir hs hwant
      exact (h (Table.lookup_erase_eq_some.mp hs).2 hwant).cancels (o := stale)
        (Asio.cancels_release ha) rfl rfl fun _ => id

theorem emplaceSocket {s : Fd} {o : SockId} (h : Coverage m) : Coverage (m.emplaceSocket s o) := by
  unfold CurlMulti.emplaceSocket
  split
  · exact h.destroySocket
  · exact h.of_eq rfl rfl rfl rfl fun _ => id

theorem curlOpenSocketCallback {purpose : SockType} {family : Family} {reply : Option Fd}
    (h : Coverage m) : Coverage (m.curlOpenSocketCallback purpose family reply).1 := by
  unfold CurlMulti.curlOpenSocketCallback
  split
  · split
    · exact h
    · rename_i s
      split
      · exact h
      · rename_i a o ha
        have hgrow : Coverage { m with asio := a } :=
          h.of_eq rfl rfl (Asio.openSocket_spec ha).2.2 rfl fun _ => id
        have hev := hgrow.evictStale (s := s) (o := o)
        split
        · rename_i m₁ e he
          rw [he] at hev
          exact hev
        · rename_i m₁ he
          rw [he] at hev
          exact hev.emplaceSocket.push _
  · exact h

theorem curlCloseSocketCallback {s : Fd} (h : Coverage m) :
    Coverage (m.curlCloseSocketCallback s) := by
  have huntrack : ∀ {m₁ : CurlMulti}, Coverage m₁ →
      Coverage { m₁ with socketDataMap := m₁.socketDataMap.erase s } := by
    intro m₁ h₁ s' sd dir hs hwant
    exact (h₁ (Table.lookup_erase_eq_some.mp hs).2 hwant).of_eq rfl rfl rfl fun _ => id
  unfold CurlMulti.curlCloseSocketCallback
  dsimp only
  split
  · exact huntrack h
  · rename_i o _
    have herase : Coverage { m.destroySocket o with socketMap := m.socketMap.erase s } :=
      h.destroySocket.of_eq rfl rfl rfl rfl fun _ => id
    exact huntrack herase

/-! ### The reactor and the handlers -/

theorem complete {w : Nat} {r : WaitResult} {a : Asio} (h : Coverage m)
    (ha : m.asio.complete w r = some a) : Coverage { m with asio := a } := by
  unfold Asio.complete at ha
  split at ha
  · rename_i hc
    obtain ⟨hlt, hpend, -⟩ := hc
    obtain rfl := Option.some.inj ha
    intro s sd dir hs hwant
    rcases h hs hwant with hcov | hcov | hcov
    · exact Or.inl hcov
    · refine Or.inr (Or.inl (hcov.mono (Nat.le_refl _) ?_ ?_ fun _ => id))
      · intro w' _
        by_cases he : w' = w
        · subst he
          simp only [wait, Heap.modify_cell_self]
          refine ⟨trivial, trivial, fun hd => ?_⟩
          simp [hpend] at hd
        · simp only [wait, Heap.modify_cell_ne _ _ he]
          exact ⟨trivial, trivial, id⟩
      · intro w' hle hlt'
        exact absurd hlt' (Nat.not_lt.mpr hle)
    · exact Or.inr (Or.inr hcov)
  · simp at ha

/--
The handler of a wait starts.  The one direction whose flag it clears is from then on
in its hands, or has failed; the early returns are not taken for a tracked object.
-/
theorem dispatch {w : Nat} {r : WaitResult} (h : Coverage m) (ht : Tracking m)
    (hidle : m.handler = none) (halive : m.curlMulti = true)
    (hst : (m.wait w).status = .completed r) :
    Coverage (({ m with asio := m.asio.markDispatched w r } : CurlMulti).asioSocketActionCallback
      w (m.wait w).dir (m.wait w).fd (m.wait w).sd r) := by
  have hout : (m.wait w).outstanding = true := by simp [wait, Wait.outstanding, hst]
  -- what the callback leaves behind, whichever return it takes
  have hstay : ∀ {m₁ : CurlMulti}, m₁.socketDataMap = m.socketDataMap →
      m₁.socketData = m.socketData.modify (m.wait w).sd
        (fun d => d.setArmed (m.wait w).dir false) →
      m₁.asio.waits = (m.asio.markDispatched w r).waits →
      (∀ e, e ∈ m.log → e ∈ m₁.log) →
      (∀ s, m.socketDataMap.lookup s = some (m.wait w).sd →
        m₁.Covered s (m.wait w).sd (m.wait w).dir) → Coverage m₁ := by
    intro m₁ hdata hsd hw hlog hthis s sd dir hs hwant
    rw [hdata] at hs
    by_cases he : sd = (m.wait w).sd ∧ dir = (m.wait w).dir
    · obtain ⟨rfl, rfl⟩ := he
      exact hthis s hs
    · have hprev : (m₁.data sd).previousAction = (m.data sd).previousAction := by
        rw [data, hsd, Heap.modify_cell]
        split
        · rename_i heq; subst heq; simp
        · rfl
      have harmed : (m₁.data sd).armed dir = (m.data sd).armed dir := by
        rw [data, hsd, Heap.modify_cell]
        split
        · rename_i heq
          subst heq
          rw [Tracking.armed_setArmed, if_neg (fun hd => he ⟨rfl, hd⟩)]
        · rfl
      rw [hprev] at hwant
      rcases h hs hwant with hcov | hcov | ⟨phase, hcov⟩
      · exact Or.inl (harmed.trans hcov)
      · refine Or.inr (Or.inl (hcov.mono (by rw [hw]; exact Nat.le_refl _) ?_ ?_ hlog))
        · intro w' _
          rw [wait, hw]
          obtain ⟨hsd', hdir'⟩ := m.asio.markDispatched_bound w r w'
          refine ⟨hsd', hdir', fun hd => ?_⟩
          have hw' : w' ≠ w := by
            intro he
            rw [he, hst] at hd
            simp at hd
          rwa [m.asio.markDispatched_ne r hw']
        · intro w' hle hlt
          rw [hw] at hlt
          exact absurd hlt (Nat.not_lt.mpr hle)
      · rw [hidle] at hcov
        simp at hcov
  unfold CurlMulti.asioSocketActionCallback
  dsimp only
  rw [if_neg (by simp [halive])]
  split
  · rename_i hab
    -- an aborted wait was cancelled, so its object is not tracked
    refine hstay rfl rfl rfl (fun _ => id) fun s hs => ?_
    obtain ⟨o, ho⟩ := ht.dataSock hs
    have hc := (ht.current hs ho hout rfl).2.2
    rw [ht.aborted (hab ▸ hst)] at hc
    exact absurd hc (by simp)
  · split
    · rename_i hnone
      refine hstay rfl rfl rfl (fun _ => id) fun s hs => ?_
      obtain ⟨o, ho⟩ := ht.dataSock hs
      rw [(ht.current hs ho hout rfl).1] at hnone
      rw [hnone] at ho
      exact absurd ho (by simp)
    · split
      · rename_i huntracked
        refine hstay rfl rfl rfl (fun _ => id) fun s hs => ?_
        obtain ⟨o, ho⟩ := ht.dataSock hs
        rw [(ht.current hs ho hout rfl).1] at huntracked
        exact absurd hs huntracked
      · refine hstay rfl rfl rfl (fun _ he => List.mem_append_left _ he) fun s hs => ?_
        obtain ⟨o, ho⟩ := ht.dataSock hs
        have hfd : (m.wait w).fd = s := (ht.current hs ho hout rfl).1
        by_cases herr : r = .error
        · -- a genuine error: this wait is the last of its direction, and libcurl is told
          refine Or.inr (Or.inl ⟨w, (ht.waitLt hout).1, ?_⟩)
          have hcell := m.asio.markDispatched_bound w r
          refine ⟨(hcell w).1, (hcell w).2, ?_, ?_, ?_⟩
          · show ((m.asio.markDispatched w r).waits.cell w).status = _
            rw [m.asio.markDispatched_self, herr]
          · intro w' hlt hsd hdir
            exact ht.latest hout hlt ((hcell w').1.symm.trans hsd) ((hcell w').2.symm.trans hdir)
          · rw [if_pos herr, hfd]
            exact List.mem_append_right _ (List.mem_singleton_self _)
        · refine Or.inr (Or.inr ⟨.inSocketAction, ?_⟩)
          show some (Handler.socket _ _ _ _ _) = _
          rw [hfd, decide_eq_false herr]

/-- The handler returns, having renewed the direction it cleared. -/
theorem rearm {dir : Dir} {s : Fd} {sd : SocketDataId} {error : Bool} {phase : Phase}
    (h : Coverage m) (ht : Tracking m)
    (hh : m.handler = some (.socket dir s sd error phase)) :
    Coverage (CurlMulti.pollCatch (m.rearm s sd error none)) := by
  -- what is covered without the handler stays covered when it is gone
  have hpop : ∀ {m₁ : CurlMulti}, m₁.socketDataMap = m.socketDataMap →
      (∀ {s' sd' dir'}, m.socketDataMap.lookup s' = some sd' →
        wants (m₁.data sd').previousAction dir' = true →
        (m₁.data sd').armed dir' = true ∨ m₁.Failed s' sd' dir') →
      Coverage { m₁ with handler := none } := by
    intro m₁ hdata hcov s' sd' dir' hs hwant
    change m₁.socketDataMap.lookup s' = some sd' at hs
    rw [hdata] at hs
    exact (hcov hs hwant).elim Or.inl fun hf => Or.inr (Or.inl hf)
  -- the handler's own direction aside, `h` covers without the handler
  have hother : ∀ {s' sd' dir'}, m.socketDataMap.lookup s' = some sd' →
      wants (m.data sd').previousAction dir' = true →
      ¬(error = false ∧ s' = s ∧ sd' = sd ∧ dir' = dir) →
      (m.data sd').armed dir' = true ∨ m.Failed s' sd' dir' := by
    intro s' sd' dir' hs hwant hne
    rcases h hs hwant with hcov | hcov | ⟨phase', hcov⟩
    · exact Or.inl hcov
    · exact Or.inr hcov
    · rw [hh] at hcov
      simp only [Option.some.injEq, Handler.socket.injEq] at hcov
      exact absurd ⟨hcov.2.2.2.1, hcov.2.1.symm, hcov.2.2.1.symm, hcov.1.symm⟩ hne
  unfold CurlMulti.rearm
  dsimp only
  generalize hm₁ : (if m.runningHandles ≤ 0 then m.cancelTimer else m) = m₁
  have heq : m₁.socketDataMap = m.socketDataMap ∧ m₁.socketMap = m.socketMap ∧
      m₁.socketData = m.socketData ∧ m₁.asio = m.asio ∧ m₁.log = m.log ∧
      m₁.removedSockets = m.removedSockets := by
    rw [← hm₁]
    split <;> exact ⟨rfl, rfl, rfl, rfl, rfl, rfl⟩
  obtain ⟨hdata, hsock, hsd, hasio, hlog, hrem⟩ := heq
  have hfailed : ∀ {s' sd' dir'}, m.Failed s' sd' dir' → m₁.Failed s' sd' dir' := by
    intro s' sd' dir' hf
    unfold Failed wait at hf ⊢
    rw [hasio, hlog]
    exact hf
  rw [hsock]
  split
  · rename_i hnone
    refine hpop hdata fun {s' sd' dir'} hs hwant => ?_
    rw [data, hsd] at hwant ⊢
    refine (hother hs hwant ?_).imp id hfailed
    rintro ⟨-, rfl, -, -⟩
    obtain ⟨o, ho⟩ := ht.dataSock hs
    rw [hnone] at ho
    exact absurd ho (by simp)
  · rename_i o ho
    split
    · rename_i hgo
      have harms : Arms sd m₁
          (m₁.armWaits (m₁.socketData.cell sd).previousAction s sd o none).1 := armWaits_arms
      have hok := m₁.armWaits_ok (m₁.socketData.cell sd).previousAction s sd o
      unfold CurlMulti.pollCatch
      split
      · rename_i x m₂ he
        have harmed : ∀ {dir}, wants (m₁.socketData.cell sd).previousAction dir = true →
            (m₂.data sd).armed dir = true := by
          intro dir hw
          have hdir := armWaits_armed (m := m₁) (s := s) (o := o) hok hw
          rwa [he] at hdir
        rw [he] at harms
        refine hpop (harms.socketDataMap.trans hdata) fun {s' sd' dir'} hs hwant => ?_
        by_cases hsd' : sd' = sd
        · -- every direction this object wants has just been armed
          subst hsd'
          rw [harms.previous] at hwant
          exact Or.inl (harmed hwant)
        · rw [harms.other sd' hsd', data, hsd] at hwant
          have hcov := (hother hs hwant fun hc => hsd' hc.2.2.1).imp id hfailed
          have hcov₁ : m₁.Covered s' sd' dir' := by
            rcases hcov with hc | hc
            · exact Or.inl (by rw [data, hsd]; exact hc)
            · exact Or.inr (Or.inl hc)
          rw [harms.other sd' hsd', data, hsd]
          refine hcov.imp id fun hf => hf.mono harms.next_le ?_ ?_ ?_
          · intro w hw
            rw [harms.old w hw]
            exact ⟨rfl, rfl, id⟩
          · rintro w hle hlt ⟨hw, -⟩
            exact hsd' (hw.symm.trans (harms.new w hle hlt).1)
          · intro e he'
            rw [harms.log]
            exact he'
      · rename_i x m₂ e he
        rw [he] at hok
        simp at hok
    · rename_i hstop
      refine hpop hdata fun {s' sd' dir'} hs hwant => ?_
      rw [data, hsd] at hwant ⊢
      refine (hother hs hwant ?_).imp id hfailed
      rintro ⟨herr, rfl, rfl, -⟩
      -- a tracked object of a handler without error is renewed
      refine hstop ⟨by simp [herr], ?_, ?_⟩
      · rw [hrem]
        exact ht.handlerRemoved hh hs
      · rw [hdata, hs]
        rfl

theorem boot : Coverage CurlMulti.boot := by
  intro s sd dir hs
  simp [CurlMulti.boot] at hs

/-- A handler that is not a socket's covers nothing, so it may come and go. -/
theorem setHandler {handler : Option Handler} (h : Coverage m)
    (hh : ∀ dir s sd error phase, m.handler = some (.socket dir s sd error phase) →
      ∃ phase', handler = some (.socket dir s sd error phase')) :
    Coverage { m with handler := handler } := by
  intro s sd dir hs hwant
  rcases h hs hwant with hcov | hcov | ⟨phase, hcov⟩
  · exact Or.inl hcov
  · exact Or.inr (Or.inl hcov)
  · exact Or.inr (Or.inr (hh dir s sd false phase hcov))

/-- **While the multi is alive, every action without an exception keeps the coverage.** -/
theorem next {a : Action} (h : Coverage m) (ht : Tracking m) (halive : m.curlMulti = true)
    (hc : NoThrow m a) (hn : m.next a = some m') (halive' : m'.curlMulti = true) :
    Coverage m' := by
  cases next_fires hn with
  | socketCallback s what refusal oom => exact h.curlSocketCallback ht halive
  | openSocketCallback purpose family reply hfree => exact h.curlOpenSocketCallback
  | closeSocketCallback s => exact h.curlCloseSocketCallback
  | timerCallback t =>
      unfold CurlMulti.curlTimerCallback
      dsimp only
      split
      · exact h.of_eq rfl rfl rfl rfl fun _ => id
      · split <;> exact h.of_eq rfl rfl rfl rfl fun _ => id
  | complete w r asio ha => exact h.complete ha
  | dispatch w r hidle hst => exact h.dispatch ht hidle halive hst
  | dispatchTimer t r hidle hst =>
      have h₁ : Coverage { m with timer := m.timer.modify t fun x =>
          { x with status := .dispatched r } } := h.of_eq rfl rfl rfl rfl fun _ => id
      unfold CurlMulti.asioTimerCallback
      split
      · exact h₁
      · split
        · exact h₁
        · exact (h₁.setHandler (by simp [hidle])).push _
  | runPosted hidle hposted =>
      have h₁ : Coverage { m with posted := m.posted - 1 } := h.of_eq rfl rfl rfl rfl fun _ => id
      unfold CurlMulti.postedTask
      split
      · exact h₁
      · exact (h₁.setHandler (by simp [hidle])).push _
  | socketActionReturn running dir s sd error hh =>
      have h₁ : Coverage { m with runningHandles := running } := h.of_eq rfl rfl rfl rfl fun _ => id
      refine h₁.setHandler ?_
      intro dir s sd error phase he
      simp only [hh, Option.some.injEq, Handler.socket.injEq] at he
      obtain ⟨rfl, rfl, rfl, rfl, -⟩ := he
      exact ⟨_, rfl⟩
  | timerActionReturn running hh =>
      have h₁ : Coverage { m with runningHandles := running } := h.of_eq rfl rfl rfl rfl fun _ => id
      exact h₁.setHandler (by simp [hh])
  | socketReturn oom dir s sd error hh =>
      obtain rfl : oom = none := hc
      exact h.rearm ht hh
  | timerReturn oom hh => exact h.setHandler (by simp [hh])
  | checkMultiInfoThrow hh => exact hc.elim
  | shutdown hidle => simp [CurlMulti.shutdown, halive] at halive'
  | _ => exact h.of_eq rfl rfl rfl rfl fun _ => id

end Coverage

/-! ### Every wanted direction is watched -/

variable {tr : List Action}

/-- A multi that is alive now has been alive all along, so its coverage was never lost. -/
theorem coverage (h : machine.Run NoThrow tr m) : m.curlMulti = true → Coverage m :=
  h.invariant_of (P := fun m => m.curlMulti = true → Coverage m) tracking
    (fun _ => .boot) fun _ _ _ ht hcov hc hn halive' =>
      have halive := next_alive hn halive'
      (hcov halive).next ht halive hc hn halive'

/--
**No readiness is left unwatched.**  At rest, a direction libcurl wants of a tracked
fd has its flag set and an uncancelled wait outstanding on the socket object the fd
has now.  The one exception is a direction whose last wait failed, and libcurl was
told so.
-/
theorem no_readiness_unwatched {s : Fd} {sd : SocketDataId} {dir : Dir}
    (h : machine.Run NoThrow tr m) (halive : m.curlMulti = true) (hidle : m.handler = none)
    (hs : m.socketDataMap.lookup s = some sd)
    (hwant : wants (m.data sd).previousAction dir = true) :
    ((m.data sd).armed dir = true ∧ ∃ (w : Nat) (o : SockId), m.socketMap.lookup s = some o ∧
        (m.wait w).outstanding = true ∧ (m.wait w).sd = sd ∧ (m.wait w).dir = dir ∧
        (m.wait w).fd = s ∧ (m.wait w).sock = o ∧ (m.wait w).cancelled = false) ∨
      m.Failed s sd dir := by
  have ht := tracking h
  rcases coverage h halive hs hwant with harmed | hfailed | ⟨phase, hbusy⟩
  · refine Or.inl ⟨harmed, ?_⟩
    obtain ⟨w, hout, hsd, hdir⟩ := (ht.armedIff sd dir).mp harmed
    obtain ⟨o, ho⟩ := ht.dataSock hs
    obtain ⟨hfd, hsock, hcan⟩ := ht.current hs ho hout hsd
    exact ⟨w, o, ho, hout, hsd, hdir, hfd, hsock, hcan⟩
  · exact Or.inr hfailed
  · rw [hidle] at hbusy
    exact absurd hbusy (by simp)

/--
A connection that wanted both directions and is narrowed to reading from inside the
handler of its write wait, while its read wait is pending.
-/
def narrowing : List Action :=
  [.openSocketCallback .ipcxn .inet (some 5),
   .socketCallback 5 CURL_POLL_INOUT .none none,
   .complete 1 .ok,
   .dispatch 1,
   .socketCallback 5 CURL_POLL_IN .none none,
   .socketActionReturn 1,
   .checkMultiInfoReturn none]

/-- The state it ends in. -/
def narrowed : CurlMulti := (machine.exec NoThrow boot narrowing).get (by decide)

theorem no_readiness_unwatched_narrowed :
    ((narrowed.data 0).armed .pollIn = true ∧ ∃ (w : Nat) (o : SockId),
        narrowed.socketMap.lookup 5 = some o ∧ (narrowed.wait w).outstanding = true ∧
        (narrowed.wait w).sd = 0 ∧ (narrowed.wait w).dir = .pollIn ∧ (narrowed.wait w).fd = 5 ∧
        (narrowed.wait w).sock = o ∧ (narrowed.wait w).cancelled = false) ∨
      narrowed.Failed 5 0 .pollIn :=
  no_readiness_unwatched (Machine.run_of_exec (Option.some_get _).symm) (by decide) (by decide)
    (by decide) (by decide)

end CurlMulti

end AmxxCurl
