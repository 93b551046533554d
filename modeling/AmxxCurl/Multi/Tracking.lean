/-
What ties a tracked `SocketData` to its socket object and its waits.

An fd number is reused by the kernel, by keep-alive and by c-ares, so nothing about
a number survives for long.  What does survive is stated about objects: a
`SocketData` enters `socket_data_map_` once, when it is new, and while it is there
the socket object under the same number does not change and is not cancelled.  So
every outstanding wait bound to a tracked `SocketData` was armed for that number, on
that object, and has not been cancelled — `Tracking.current`.

The armed flags are exact at the same time: a flag is set iff a wait of that
direction bound to that object is outstanding, and then it is the last such wait
ever armed.  All of it is one induction over the machine, `tracking`.
-/
import AmxxCurl.Multi.Cases

namespace AmxxCurl

namespace CurlMulti

/-- The wait `w`, with what its handler is bound to. -/
abbrev wait (m : CurlMulti) (w : WaitId) : Wait := m.asio.waits.cell w

/-- `d` of the `SocketData` numbered `sd`. -/
abbrev data (m : CurlMulti) (sd : SocketDataId) : SocketData := m.socketData.cell sd

/-- The invariant of `CurlMulti`. -/
structure Tracking (m : CurlMulti) : Prop where
  dataLt : ∀ {s sd}, m.socketDataMap.lookup s = some sd → sd < m.socketData.next
  sockLt : ∀ {s o}, m.socketMap.lookup s = some o → o < m.asio.socks.next
  dataInj : Table.Injective m.socketDataMap
  sockInj : Table.Injective m.socketMap
  /-- `SetSock` never meets an unknown socket. -/
  dataSock : ∀ {s sd}, m.socketDataMap.lookup s = some sd → ∃ o, m.socketMap.lookup s = some o
  waitLt : ∀ {w : Nat}, (m.wait w).outstanding = true →
    w < m.asio.waits.next ∧ (m.wait w).sd < m.socketData.next
  /-- A tracked object's outstanding waits are on its current socket, and uncancelled. -/
  current : ∀ {s sd o} {w : Nat}, m.socketDataMap.lookup s = some sd → m.socketMap.lookup s = some o →
    (m.wait w).outstanding = true → (m.wait w).sd = sd →
    (m.wait w).fd = s ∧ (m.wait w).sock = o ∧ (m.wait w).cancelled = false
  /-- Only a cancelled wait is aborted. -/
  aborted : ∀ {w : Nat}, (m.wait w).status = .completed .aborted → (m.wait w).cancelled = true
  /-- An outstanding wait is the last of its direction armed for its object. -/
  latest : ∀ {w w' : Nat}, (m.wait w).outstanding = true → w' < m.asio.waits.next →
    (m.wait w').sd = (m.wait w).sd → (m.wait w').dir = (m.wait w).dir → w' ≤ w
  /-- The armed flags are exact. -/
  armedIff : ∀ sd dir, (m.data sd).armed dir = true ↔
    ∃ w : Nat, (m.wait w).outstanding = true ∧ (m.wait w).sd = sd ∧ (m.wait w).dir = dir
  /-- The handler on the stack holds an allocated object, tracked under its fd if at all. -/
  handlerFd : ∀ {dir s sd error phase}, m.handler = some (.socket dir s sd error phase) →
    sd < m.socketData.next ∧ ∀ s', m.socketDataMap.lookup s' = some sd → s' = s
  /-- While that object is tracked, libcurl has not removed its fd. -/
  handlerRemoved : ∀ {dir s sd error phase}, m.handler = some (.socket dir s sd error phase) →
    m.socketDataMap.lookup s = some sd → s ∉ m.removedSockets

namespace Tracking

variable {m m' : CurlMulti}

/-- What the invariant reads. -/
theorem of_eq (h : Tracking m) (hsock : m'.socketMap = m.socketMap)
    (hdata : m'.socketDataMap = m.socketDataMap) (hsd : m'.socketData = m.socketData)
    (hwaits : m'.asio.waits = m.asio.waits) (hsocks : m'.asio.socks.next = m.asio.socks.next)
    (hhandler : m'.handler = m.handler) (hremoved : m'.removedSockets = m.removedSockets) :
    Tracking m' := by
  obtain ⟨h1, h2, h3, h4, h5, h6, h7, h8, h9, h10, h11, h12⟩ := h
  constructor
  all_goals simp only [wait, data, hsock, hdata, hsd, hwaits, hsocks, hhandler, hremoved]
  all_goals assumption

/-- An untracked handler object: any new one may take the stack's place. -/
theorem push (h : Tracking m) (e : Event) : Tracking (m.push e) :=
  h.of_eq rfl rfl rfl rfl rfl rfl rfl

theorem printUnlessDetached (h : Tracking m) : Tracking m.printUnlessDetached := by
  unfold CurlMulti.printUnlessDetached
  split
  · exact h
  · exact h.push .print

theorem cancelTimer (h : Tracking m) : Tracking m.cancelTimer :=
  h.of_eq rfl rfl rfl rfl rfl rfl rfl

/-- The handler returns. -/
theorem popHandler (h : Tracking m) : Tracking { m with handler := none } where
  dataLt := h.dataLt
  sockLt := h.sockLt
  dataInj := h.dataInj
  sockInj := h.sockInj
  dataSock := h.dataSock
  waitLt := h.waitLt
  current := h.current
  aborted := h.aborted
  latest := h.latest
  armedIff := h.armedIff
  handlerFd := by intro _ _ _ _ _ hh; simp at hh
  handlerRemoved := by intro _ _ _ _ _ hh; simp at hh

/-! ### Losing entries

REMOVE, close and eviction all take entries out of the maps and cancel the waits of
the one socket object they take out; no object that stays tracked is on it.
-/

theorem shrink {o : SockId} (h : Tracking m) (hc : Asio.Cancels o m.asio m'.asio)
    (hsd : m'.socketData = m.socketData)
    (hdata : ∀ {s sd}, m'.socketDataMap.lookup s = some sd →
      m.socketDataMap.lookup s = some sd ∧ m'.socketMap.lookup s = m.socketMap.lookup s ∧
        m.socketMap.lookup s ≠ some o)
    (hsock : ∀ {s o'}, m'.socketMap.lookup s = some o' → m.socketMap.lookup s = some o')
    (hhandler : m'.handler = m.handler)
    (hremoved : ∀ {s sd}, m'.socketDataMap.lookup s = some sd →
      s ∈ m'.removedSockets → s ∈ m.removedSockets) : Tracking m' := by
  have hout : ∀ w, (m'.wait w).outstanding = (m.wait w).outstanding := by
    intro w
    rcases hc.cell w with he | ⟨-, he⟩
    · rw [wait, he]
    · rw [wait, he]
      rfl
  have hwsd : ∀ w, (m'.wait w).sd = (m.wait w).sd := by
    intro w
    rcases hc.cell w with he | ⟨-, he⟩ <;> simp only [wait, he]
  have hdir : ∀ w, (m'.wait w).dir = (m.wait w).dir := by
    intro w
    rcases hc.cell w with he | ⟨-, he⟩ <;> simp only [wait, he]
  refine ⟨?_, ?_, ?_, ?_, ?_, ?_, ?_, ?_, ?_, ?_, ?_, ?_⟩
  · intro s sd hs
    rw [hsd]
    exact h.dataLt (hdata hs).1
  · intro s o' hs
    rw [hc.socks_next]
    exact h.sockLt (hsock hs)
  · intro s s' sd hs hs'
    exact h.dataInj (hdata hs).1 (hdata hs').1
  · intro s s' o' hs hs'
    exact h.sockInj (hsock hs) (hsock hs')
  · intro s sd hs
    obtain ⟨hs', he, -⟩ := hdata hs
    rw [he]
    exact h.dataSock hs'
  · intro w hw
    rw [hout] at hw
    rw [hc.waits_next, hwsd, hsd]
    exact h.waitLt hw
  · intro s sd o' w hs ho hw he
    obtain ⟨hs', hsame, hne⟩ := hdata hs
    rw [hout] at hw
    rw [hwsd] at he
    have hcur := h.current hs' (hsock ho) hw he
    rcases hc.cell w with hcell | ⟨hwo, -⟩
    · rw [wait, hcell]; exact hcur
    · exact absurd (hcur.2.1.symm.trans hwo ▸ hsock ho) hne
  · intro w hw
    rcases hc.cell w with hcell | ⟨-, hcell⟩
    · rw [wait, hcell] at hw ⊢; exact h.aborted hw
    · rw [wait, hcell]
  · intro w w' hw hlt he hd
    rw [hout] at hw
    rw [hwsd, hwsd] at he
    rw [hdir, hdir] at hd
    rw [hc.waits_next] at hlt
    exact h.latest hw hlt he hd
  · intro sd dir
    rw [data, hsd]
    refine (h.armedIff sd dir).trans ?_
    simp only [hout, hwsd, hdir]
  · intro dir s sd error phase hh
    rw [hhandler] at hh
    obtain ⟨hlt, hfd⟩ := h.handlerFd hh
    rw [hsd]
    exact ⟨hlt, fun s' hs' => hfd s' (hdata hs').1⟩
  · intro dir s sd error phase hh hs hmem
    rw [hhandler] at hh
    exact h.handlerRemoved hh (hdata hs).1 (hremoved hs hmem)

/-! ### Arming -/

@[simp] theorem setArmed_previousAction (d : SocketData) (dir : Dir) (b : Bool) :
    (d.setArmed dir b).previousAction = d.previousAction := by
  cases dir <;> rfl

theorem armed_setArmed (d : SocketData) (dir dir' : Dir) (b : Bool) :
    (d.setArmed dir b).armed dir' = if dir' = dir then b else d.armed dir' := by
  cases dir <;> cases dir' <;> rfl

/--
A new wait for a direction that has none outstanding, with the flag that says so.
`sd` may be a `SocketData` that is not tracked any more; if it is tracked, it is
under `s` and `o` is its socket.
-/
theorem arm {s : Fd} {sd : SocketDataId} {o : SockId} {dir : Dir} (h : Tracking m)
    (hlt : sd < m.socketData.next) (hfree : (m.data sd).armed dir = false)
    (hcur : ∀ {s'}, m.socketDataMap.lookup s' = some sd → s' = s ∧ m.socketMap.lookup s = some o) :
    Tracking { m with
      asio := m.asio.asyncWait dir s sd o
      socketData := m.socketData.modify sd fun d => d.setArmed dir true } := by
  have hcell : ∀ w, ((m.asio.asyncWait dir s sd o).waits.cell w)
      = if w = m.asio.waits.next then ⟨dir, s, sd, o, false, .pending⟩ else m.wait w :=
    fun w => Heap.alloc_cell ..
  have hold : ∀ {w}, w ≠ m.asio.waits.next →
      ((m.asio.asyncWait dir s sd o).waits.cell w) = m.wait w := by
    intro w hw
    rw [hcell, if_neg hw]
  -- no outstanding wait of this direction is bound to the object
  have hnone : ∀ {w}, (m.wait w).outstanding = true → (m.wait w).sd = sd →
      (m.wait w).dir ≠ dir := by
    intro w hw he hd
    have := (h.armedIff sd dir).mpr ⟨w, hw, he, hd⟩
    rw [hfree] at this
    exact Bool.noConfusion this
  refine ⟨h.dataLt, h.sockLt, h.dataInj, h.sockInj, h.dataSock, ?_, ?_, ?_, ?_, ?_,
    h.handlerFd, h.handlerRemoved⟩
  · intro w hw
    show w < m.asio.waits.next + 1 ∧ _ < m.socketData.next
    by_cases hwn : w = m.asio.waits.next
    · simp only [wait, hcell, if_pos hwn]
      exact ⟨by omega, hlt⟩
    · simp only [wait, hold hwn] at hw ⊢
      have := h.waitLt hw
      exact ⟨by omega, this.2⟩
  · intro s' sd' o' w hs ho hw he
    by_cases hwn : w = m.asio.waits.next
    · simp only [wait, hcell, if_pos hwn] at he ⊢
      subst he
      obtain ⟨rfl, hso⟩ := hcur hs
      exact ⟨rfl, Option.some.inj (hso.symm.trans ho), trivial⟩
    · simp only [wait, hold hwn] at hw he ⊢
      exact h.current hs ho hw he
  · intro w hw
    by_cases hwn : w = m.asio.waits.next
    · simp [wait, hcell, if_pos hwn] at hw
    · simp only [wait, hold hwn] at hw ⊢
      exact h.aborted hw
  · intro w w' hw hw' he hd
    change w' < m.asio.waits.next + 1 at hw'
    by_cases hwn : w = m.asio.waits.next
    · omega
    · simp only [wait, hold hwn] at hw he hd
      by_cases hwn' : w' = m.asio.waits.next
      · simp only [hcell, if_pos hwn'] at he hd
        exact absurd hd.symm (hnone hw he.symm)
      · simp only [hold hwn'] at he hd
        exact h.latest hw (by omega) he hd
  · intro sd' dir'
    have hdata : ((m.socketData.modify sd fun d => d.setArmed dir true).cell sd').armed dir'
        = if sd' = sd ∧ dir' = dir then true else (m.data sd').armed dir' := by
      rw [Heap.modify_cell]
      by_cases hs : sd' = sd
      · subst hs
        rw [if_pos rfl, armed_setArmed]
        by_cases hd : dir' = dir <;> simp [hd]
      · rw [if_neg hs, if_neg (fun hc => hs hc.1)]
    show ((m.socketData.modify sd fun d => d.setArmed dir true).cell sd').armed dir' = true ↔ _
    rw [hdata]
    by_cases hnew : sd' = sd ∧ dir' = dir
    · obtain ⟨rfl, rfl⟩ := hnew
      refine ⟨fun _ => ⟨m.asio.waits.next, ?_⟩, fun _ => by simp⟩
      simp [wait, hcell, Wait.outstanding]
    · rw [if_neg hnew, h.armedIff]
      constructor
      · rintro ⟨w, hw, he, hd⟩
        have hwn : w ≠ m.asio.waits.next := Nat.ne_of_lt (h.waitLt hw).1
        exact ⟨w, by simpa only [wait, hold hwn] using ⟨hw, he, hd⟩⟩
      · rintro ⟨w, hw, he, hd⟩
        by_cases hwn : w = m.asio.waits.next
        · simp only [wait, hcell, if_pos hwn] at he hd
          exact absurd ⟨he.symm, hd.symm⟩ hnew
        · simp only [wait, hold hwn] at hw he hd
          exact ⟨w, hw, he, hd⟩

/-- `previous_action` is no part of the invariant. -/
theorem setPrevious (h : Tracking m) (sd : SocketDataId) (act : CInt) :
    Tracking { m with
      socketData := m.socketData.modify sd fun d => { d with previousAction := act } } := by
  have harmed : ∀ sd' dir,
      ((m.socketData.modify sd fun d => { d with previousAction := act }).cell sd').armed dir
        = (m.data sd').armed dir := by
    intro sd' dir
    rw [Heap.modify_cell]
    split
    · rename_i hs
      subst hs
      cases dir <;> rfl
    · rfl
  refine ⟨h.dataLt, h.sockLt, h.dataInj, h.sockInj, h.dataSock, h.waitLt, h.current, h.aborted,
    h.latest, ?_, h.handlerFd, h.handlerRemoved⟩
  intro sd' dir
  show ((m.socketData.modify sd fun d => { d with previousAction := act }).cell sd').armed dir
    = true ↔ _
  rw [harmed]
  exact h.armedIff sd' dir

/-- What the callers of `ArmWaits` know of its arguments. -/
structure Armable (m : CurlMulti) (s : Fd) (sd : SocketDataId) (o : SockId) : Prop where
  lt : sd < m.socketData.next
  current : ∀ {s'}, m.socketDataMap.lookup s' = some sd → s' = s ∧ m.socketMap.lookup s = some o

theorem armDir {act : CInt} {s : Fd} {sd : SocketDataId} {o : SockId} {oom : Option Dir}
    {dir : Dir} (h : Tracking m) (ha : Armable m s sd o) :
    Tracking (m.armDir act s sd o oom dir).1 ∧ Armable (m.armDir act s sd o oom dir).1 s sd o := by
  unfold CurlMulti.armDir
  split
  · rename_i hc
    split
    · exact ⟨h, ha⟩
    · have hfree : (m.data sd).armed dir = false := by
        simp only [Bool.and_eq_true, Bool.not_eq_true'] at hc
        exact hc.2
      exact ⟨h.arm ha.lt hfree ha.current, ⟨ha.lt, ha.current⟩⟩
  · exact ⟨h, ha⟩

theorem armWaits {act : CInt} {s : Fd} {sd : SocketDataId} {o : SockId} {oom : Option Dir}
    (h : Tracking m) (ha : Armable m s sd o) : Tracking (m.armWaits act s sd o oom).1 := by
  have hin : Tracking (m.armDir act s sd o oom .pollIn).1 ∧
      Armable (m.armDir act s sd o oom .pollIn).1 s sd o := h.armDir ha
  unfold CurlMulti.armWaits
  split
  · rename_i m₁ e he
    rw [he] at hin
    exact hin.1
  · rename_i m₁ he
    rw [he] at hin
    exact (hin.1.armDir hin.2).1

theorem setSock {act : CInt} {s : Fd} {sd : SocketDataId} {oom : Option Dir}
    (h : Tracking m) (hs : m.socketDataMap.lookup s = some sd) :
    Tracking (m.setSock act s sd oom).1 := by
  unfold CurlMulti.setSock
  split
  · exact h
  · split
    · exact h
    · rename_i o ho
      have ha : Armable m s sd o := by
        refine ⟨h.dataLt hs, ?_⟩
        intro s' hs'
        obtain rfl := h.dataInj hs' hs
        exact ⟨rfl, ho⟩
      have harm : Tracking (m.armWaits act s sd o oom).1 := h.armWaits ha
      split
      · rename_i m₁ e he
        rw [he] at harm
        exact harm
      · rename_i m₁ he
        rw [he] at harm
        exact harm.setPrevious sd act

/-! ### The callbacks -/

theorem removeSocket {s : Fd} {sd : SocketDataId} (h : Tracking m) :
    Tracking (m.removeSocket s sd).1 := by
  have herase : ∀ {s' sd'}, (m.socketDataMap.erase s).lookup s' = some sd' →
      s' ≠ s ∧ m.socketDataMap.lookup s' = some sd' := Table.lookup_erase_eq_some.mp
  have hremoved : ∀ {s' sd'}, (m.socketDataMap.erase s).lookup s' = some sd' →
      s' ∈ insert s m.removedSockets → s' ∈ m.removedSockets := by
    intro s' sd' hs hmem
    exact (Finset.mem_insert.mp hmem).resolve_left (herase hs).1
  unfold CurlMulti.removeSocket
  split
  · rename_i hnone
    refine h.shrink (o := m.asio.socks.next) (.refl _ _) rfl ?_ id rfl hremoved
    intro s' sd' hs
    exact ⟨(herase hs).2, rfl, fun hc => Nat.lt_irrefl _ (h.sockLt hc)⟩
  · rename_i o ho
    have hne : ∀ {s'}, s' ≠ s → m.socketMap.lookup s' ≠ some o :=
      fun hs' hc => hs' (h.sockInj hc ho)
    split
    · split
      · exact h
      · rename_i a ha
        refine h.shrink (o := o) (Asio.cancels_release ha) rfl ?_ ?_ rfl hremoved
        · intro s' sd' hs
          refine ⟨(herase hs).2, ?_, hne (herase hs).1⟩
          exact (Table.lookup_erase_if ..).trans (if_neg (herase hs).1)
        · intro s' o' hs
          exact (Table.lookup_erase_eq_some.mp hs).2
    · refine h.shrink (o := o) (Asio.cancels_cancel ..) rfl ?_ id rfl hremoved
      intro s' sd' hs
      exact ⟨(herase hs).2, rfl, hne (herase hs).1⟩

/-- A new `SocketData` that is not tracked yet. -/
theorem allocData (h : Tracking m) {d : SocketData} (hd : ∀ dir, d.armed dir = false) :
    Tracking { m with socketData := m.socketData.alloc d } := by
  refine ⟨?_, h.sockLt, h.dataInj, h.sockInj, h.dataSock, ?_, h.current, h.aborted, h.latest, ?_,
    ?_, h.handlerRemoved⟩
  · intro s sd hs
    exact Nat.lt_succ_of_lt (h.dataLt hs)
  · intro w hw
    exact ⟨(h.waitLt hw).1, Nat.lt_succ_of_lt (h.waitLt hw).2⟩
  · intro sd dir
    show ((m.socketData.alloc d).cell sd).armed dir = true ↔ _
    rw [Heap.alloc_cell]
    split
    · rename_i hnew
      rw [hd]
      -- nothing outstanding is bound to an object nobody has seen
      refine ⟨fun hc => Bool.noConfusion hc, ?_⟩
      rintro ⟨w, hw, he, -⟩
      have hlt : (m.wait w).sd < m.socketData.next := (h.waitLt hw).2
      have heq : (m.wait w).sd = m.socketData.next := he.trans hnew
      exact absurd heq (Nat.ne_of_lt hlt)
    · exact h.armedIff sd dir
  · intro dir s sd error phase hh
    exact ⟨Nat.lt_succ_of_lt (h.handlerFd hh).1, (h.handlerFd hh).2⟩

/-- New sockets and kernel state, the waits as they were. -/
theorem growSocks (h : Tracking m) {a : Asio} (hw : a.waits = m.asio.waits)
    (hs : m.asio.socks.next ≤ a.socks.next) : Tracking { m with asio := a } := by
  obtain ⟨h1, h2, h3, h4, h5, h6, h7, h8, h9, h10, h11, h12⟩ := h
  constructor
  case sockLt =>
    intro s o ho
    exact Nat.lt_of_lt_of_le (h2 ho) hs
  all_goals simp only [wait, data, hw]
  all_goals assumption

/-- A socket object nobody holds goes under a number that is not tracked. -/
theorem insertSocket {s : Fd} {o : SockId} (h : Tracking m) (hlt : o < m.asio.socks.next)
    (hnew : ∀ s', m.socketMap.lookup s' ≠ some o) (hs : m.socketDataMap.lookup s = none) :
    Tracking { m with socketMap := m.socketMap.insert s o } := by
  have hne : ∀ {s' sd}, m.socketDataMap.lookup s' = some sd → s' ≠ s := by
    rintro s' sd hs' rfl
    rw [hs] at hs'
    simp at hs'
  have hother : ∀ {s' sd}, m.socketDataMap.lookup s' = some sd →
      (m.socketMap.insert s o).lookup s' = m.socketMap.lookup s' := by
    intro s' sd hs'
    exact (Table.lookup_insert_if ..).trans (if_neg (hne hs'))
  refine ⟨h.dataLt, ?_, h.dataInj, h.sockInj.insert hnew, ?_, h.waitLt, ?_, h.aborted, h.latest,
    h.armedIff, h.handlerFd, h.handlerRemoved⟩
  · intro s' o' hs'
    rcases Table.lookup_insert_eq_some.mp hs' with ⟨-, rfl⟩ | ⟨-, hold⟩
    · exact hlt
    · exact h.sockLt hold
  · intro s' sd hs'
    obtain ⟨o', ho'⟩ := h.dataSock hs'
    exact ⟨o', (hother hs').trans ho'⟩
  · intro s' sd o' w hs' ho' hw he
    exact h.current hs' ((hother hs').symm.trans ho') hw he

/-- A new `SocketData` is tracked under a number that has a socket and no `SocketData`. -/
theorem insertData {s : Fd} {sd : SocketDataId} (h : Tracking m) (hlt : sd < m.socketData.next)
    (hnew : ∀ s', m.socketDataMap.lookup s' ≠ some sd) {o : SockId}
    (ho : m.socketMap.lookup s = some o)
    (hidle : ∀ w : Nat, (m.wait w).outstanding = true → (m.wait w).sd ≠ sd)
    (hhandler : ∀ {dir s' sd' error phase},
      m.handler = some (.socket dir s' sd' error phase) → sd' ≠ sd) :
    Tracking { m with socketDataMap := m.socketDataMap.insert s sd } := by
  refine ⟨?_, h.sockLt, h.dataInj.insert hnew, h.sockInj, ?_, h.waitLt, ?_, h.aborted, h.latest,
    h.armedIff, ?_, ?_⟩
  · intro s' sd' hs'
    rcases Table.lookup_insert_eq_some.mp hs' with ⟨-, rfl⟩ | ⟨-, hold⟩
    · exact hlt
    · exact h.dataLt hold
  · intro s' sd' hs'
    rcases Table.lookup_insert_eq_some.mp hs' with ⟨rfl, -⟩ | ⟨-, hold⟩
    · exact ⟨o, ho⟩
    · exact h.dataSock hold
  · intro s' sd' o' w hs' ho' hw he
    rcases Table.lookup_insert_eq_some.mp hs' with ⟨-, rfl⟩ | ⟨-, hold⟩
    · exact absurd he (hidle w hw)
    · exact h.current hold ho' hw he
  · intro dir s' sd' error phase hh
    refine ⟨(h.handlerFd hh).1, fun s'' hs'' => ?_⟩
    rcases Table.lookup_insert_eq_some.mp hs'' with ⟨-, rfl⟩ | ⟨-, hold⟩
    · exact absurd rfl (hhandler hh)
    · exact (h.handlerFd hh).2 s'' hold
  · intro dir s' sd' error phase hh hs'
    rcases Table.lookup_insert_eq_some.mp hs' with ⟨-, rfl⟩ | ⟨-, hold⟩
    · exact absurd rfl (hhandler hh)
    · exact h.handlerRemoved hh hold

/-- The two steps of adding a `SocketData`, in the order of the source. -/
theorem trackNew {s : Fd} {d : SocketData} {o : SockId} (h : Tracking m)
    (hd : ∀ dir, d.armed dir = false) (ho : m.socketMap.lookup s = some o) :
    Tracking { m with
      socketData := m.socketData.alloc d
      socketDataMap := m.socketDataMap.insert s m.socketData.next } := by
  refine (h.allocData hd).insertData (Nat.lt_succ_self _) ?_ ho ?_ ?_
  · intro s' hs'
    exact Nat.lt_irrefl _ (h.dataLt hs')
  · intro w hw he
    have hlt : (m.wait w).sd < m.socketData.next := (h.waitLt hw).2
    exact absurd he (Nat.ne_of_lt hlt)
  · intro dir s' sd' error phase hh
    exact Nat.ne_of_lt (h.handlerFd hh).1

theorem addSocket {s : Fd} {refusal : Kernel.Refusal} (h : Tracking m) :
    Tracking (m.addSocket s refusal).1 := by
  have hnew : ∀ ares, ∀ dir, ({ isAresSocket := ares } : SocketData).armed dir = false := by
    intro ares dir
    cases dir <;> rfl
  unfold CurlMulti.addSocket
  split
  · rename_i o ho
    exact (h.trackNew (hnew false) ho).push _
  · rename_i hnone
    dsimp only
    split
    · exact (h.allocData (hnew true)).printUnlessDetached.push _
    · rename_i a o ha
      obtain ⟨rfl, hsocks, hwaits⟩ := Asio.assignSocket_spec ha
      have hgrow := h.growSocks hwaits (by omega)
      have hdata : m.socketDataMap.lookup s = none := by
        rcases hd : m.socketDataMap.lookup s with _ | sd
        · rfl
        · obtain ⟨o, ho⟩ := h.dataSock hd
          rw [hnone] at ho
          exact absurd ho (by simp)
      have hins := hgrow.insertSocket (s := s) (o := m.asio.socks.next)
        (by show m.asio.socks.next < a.socks.next; omega)
        (fun s' hc => Nat.lt_irrefl _ (h.sockLt hc)) hdata
      exact (hins.trackNew (s := s) (hnew true) (Finmap.lookup_insert _)).push _

/-- What `addSocket` tracks is what it returns. -/
theorem addSocket_tracked {s : Fd} {refusal : Kernel.Refusal} {sd : SocketDataId}
    (hr : m.addSocket s refusal = (m', some sd)) : m'.socketDataMap.lookup s = some sd := by
  unfold CurlMulti.addSocket at hr
  split at hr
  · obtain ⟨rfl, hsd⟩ := Prod.mk.inj hr
    obtain rfl := Option.some.inj hsd
    exact Finmap.lookup_insert _
  · dsimp only at hr
    split at hr
    · simp at hr
    · obtain ⟨rfl, hsd⟩ := Prod.mk.inj hr
      obtain rfl := Option.some.inj hsd
      exact Finmap.lookup_insert _

theorem curlSocketCallback {s : Fd} {what : CInt} {refusal : Kernel.Refusal}
    {oom : Option Dir} (h : Tracking m) :
    Tracking (m.curlSocketCallback s what refusal oom).1 := by
  unfold CurlMulti.curlSocketCallback
  split
  · split
    · exact h
    · exact h.removeSocket
  · dsimp only
    split
    · rename_i sd hs
      split
      · exact h
      · exact h.setSock hs
    · have hadd : Tracking (m.addSocket s refusal).1 := h.addSocket
      split
      · rename_i m₁ he
        rw [he] at hadd
        exact hadd
      · rename_i m₁ sd he
        rw [he] at hadd
        split
        · exact hadd
        · exact hadd.setSock (addSocket_tracked he)

theorem curlSocketCallbackStatic {s : Fd} {what : CInt} {refusal : Kernel.Refusal}
    {oom : Option Dir} (h : Tracking m) :
    Tracking (m.curlSocketCallbackStatic s what refusal oom).1 := by
  have hcb : Tracking (m.curlSocketCallback s what refusal oom).1 := h.curlSocketCallback
  unfold CurlMulti.curlSocketCallbackStatic
  split
  · rename_i m₁ he
    rw [he] at hcb
    exact hcb
  · rename_i m₁ e he
    rw [he] at hcb
    exact hcb.printUnlessDetached

theorem destroySocket_asio (m : CurlMulti) (o : SockId) :
    (m.destroySocket o).asio = m.asio.destroy o ∧
      (m.destroySocket o).socketMap = m.socketMap ∧
      (m.destroySocket o).socketDataMap = m.socketDataMap ∧
      (m.destroySocket o).socketData = m.socketData ∧
      (m.destroySocket o).handler = m.handler ∧
      (m.destroySocket o).removedSockets = m.removedSockets := by
  unfold CurlMulti.destroySocket
  dsimp only
  split
  · exact ⟨rfl, rfl, rfl, rfl, rfl, rfl⟩
  · split <;> exact ⟨rfl, rfl, rfl, rfl, rfl, rfl⟩

/-- Destroying a socket object that no tracked number holds. -/
theorem destroySocket {o : SockId} (h : Tracking m)
    (ho : ∀ s sd, m.socketDataMap.lookup s = some sd → m.socketMap.lookup s ≠ some o) :
    Tracking (m.destroySocket o) := by
  obtain ⟨hasio, hsock, hdata, hsd, hh, hrem⟩ := destroySocket_asio m o
  refine h.shrink (o := o) (by rw [hasio]; exact Asio.cancels_destroy ..) hsd ?_ ?_ hh ?_
  · intro s sd hs
    rw [hdata] at hs
    exact ⟨hs, by rw [hsock], ho s sd hs⟩
  · intro s o' hs
    rwa [hsock] at hs
  · intro s sd _ hmem
    rwa [hrem] at hmem

theorem curlCloseSocketCallback {s : Fd} (h : Tracking m) :
    Tracking (m.curlCloseSocketCallback s) := by
  unfold CurlMulti.curlCloseSocketCallback
  dsimp only
  split
  · rename_i hnone
    refine h.shrink (o := m.asio.socks.next) (.refl _ _) rfl ?_ id rfl (fun _ => id)
    intro s' sd hs
    exact ⟨(Table.lookup_erase_eq_some.mp hs).2, rfl, fun hc => Nat.lt_irrefl _ (h.sockLt hc)⟩
  · rename_i o ho
    obtain ⟨hasio, hsock, hdata, hsd, hh, hrem⟩ := destroySocket_asio m o
    refine h.shrink (o := o) (by show Asio.Cancels o _ (m.destroySocket o).asio
                                 rw [hasio]; exact Asio.cancels_destroy ..) hsd ?_ ?_ hh ?_
    · intro s' sd hs
      obtain ⟨hne, hs'⟩ := Table.lookup_erase_eq_some.mp hs
      rw [hdata] at hs'
      refine ⟨hs', ?_, fun hc => hne (h.sockInj hc ho)⟩
      exact (Table.lookup_erase_if ..).trans (if_neg hne)
    · intro s' o' hs
      exact (Table.lookup_erase_eq_some.mp hs).2
    · intro s' sd _ hmem
      change s' ∈ (m.destroySocket o).removedSockets at hmem
      rwa [hrem] at hmem

/-- What an eviction leaves: nothing under the number, and nothing new elsewhere. -/
theorem evictStale {s : Fd} {o : SockId} (h : Tracking m) {m' : CurlMulti}
    (ho : ∀ s', m.socketMap.lookup s' ≠ some o) (hr : m.evictStale s o = (m', .ok ())) :
    Tracking m' ∧ m'.socketMap.lookup s = none ∧ m'.socketDataMap.lookup s = none ∧
      (∀ s', m'.socketMap.lookup s' ≠ some o) ∧ m'.asio.socks.next = m.asio.socks.next := by
  unfold CurlMulti.evictStale at hr
  split at hr
  · rename_i hnone
    obtain ⟨rfl, -⟩ := Prod.mk.inj hr
    refine ⟨h, hnone, ?_, ho, rfl⟩
    rcases hd : m.socketDataMap.lookup s with _ | sd
    · rfl
    · obtain ⟨o', ho'⟩ := h.dataSock hd
      rw [hnone] at ho'
      exact absurd ho' (by simp)
  · rename_i stale hstale
    split at hr
    · simp at hr
    · rename_i a ha
      obtain ⟨rfl, -⟩ := Prod.mk.inj hr
      have hsh : Tracking { m with
          asio := a
          socketMap := m.socketMap.erase s
          socketDataMap := m.socketDataMap.erase s } := by
        refine h.shrink (o := stale) (Asio.cancels_release ha) rfl ?_ ?_ rfl (fun _ => id)
        · intro s' sd hs
          obtain ⟨hne, hs'⟩ := Table.lookup_erase_eq_some.mp hs
          refine ⟨hs', ?_, fun hc => hne (h.sockInj hc hstale)⟩
          exact (Table.lookup_erase_if ..).trans (if_neg hne)
        · intro s' o' hs
          exact (Table.lookup_erase_eq_some.mp hs).2
      refine ⟨hsh.printUnlessDetached, ?_⟩
      have hsock : ∀ s', (m.socketMap.erase s).lookup s' ≠ some o :=
        fun s' hc => ho s' (Table.lookup_erase_eq_some.mp hc).2
      unfold CurlMulti.printUnlessDetached
      split <;>
        exact ⟨Finmap.lookup_erase .., Finmap.lookup_erase .., hsock,
          (Asio.cancels_release ha).socks_next⟩

theorem curlOpenSocketCallback {purpose : SockType} {family : Family} {reply : Option Fd}
    (h : Tracking m) : Tracking (m.curlOpenSocketCallback purpose family reply).1 := by
  unfold CurlMulti.curlOpenSocketCallback
  split
  · split
    · exact h
    · rename_i s
      split
      · exact h
      · rename_i a o ha
        obtain ⟨rfl, hsocks, hwaits⟩ := Asio.openSocket_spec ha
        have hgrow := h.growSocks hwaits (by omega)
        have hfresh : ∀ s', m.socketMap.lookup s' ≠ some m.asio.socks.next :=
          fun s' hc => Nat.lt_irrefl _ (h.sockLt hc)
        split
        · rename_i m₁ e he
          -- `release()` threw: only the new socket object is gone
          unfold CurlMulti.evictStale at he
          split at he
          · simp at he
          · split at he
            · obtain ⟨rfl, -⟩ := Prod.mk.inj he
              exact hgrow.destroySocket fun s' sd _ => hfresh s'
            · simp at he
        · rename_i m₁ he
          obtain ⟨hev, hnone, hdata, hfresh', hnext⟩ := hgrow.evictStale hfresh he
          have hemp : m₁.emplaceSocket s m.asio.socks.next
              = { m₁ with socketMap := m₁.socketMap.insert s m.asio.socks.next } := by
            unfold CurlMulti.emplaceSocket
            rw [hnone]
          rw [hemp]
          refine (hev.insertSocket ?_ hfresh' hdata).push _
          rw [hnext]
          show m.asio.socks.next < a.socks.next
          omega
  · exact h

theorem curlTimerCallback {timeoutMs : Int} (h : Tracking m) :
    Tracking (m.curlTimerCallback timeoutMs) := by
  unfold CurlMulti.curlTimerCallback
  dsimp only
  split
  · exact h.of_eq rfl rfl rfl rfl rfl rfl rfl
  · split
    · exact h.of_eq rfl rfl rfl rfl rfl rfl rfl
    · exact h.cancelTimer

/-! ### The reactor and the handlers -/

theorem complete {w : Nat} {r : WaitResult} {a : Asio} (h : Tracking m)
    (ha : m.asio.complete w r = some a) : Tracking { m with asio := a } := by
  unfold Asio.complete at ha
  split at ha
  · rename_i hc
    obtain ⟨hlt, hpend, hab⟩ := hc
    obtain rfl := Option.some.inj ha
    have hold : (m.wait w).outstanding = true := by simp [wait, Wait.outstanding, hpend]
    -- only the status of `w` changes, and it stays outstanding
    have hcell : ∀ w' : Nat,
        (m.asio.waits.modify w fun x => { x with status := .completed r }).cell w'
        = { m.wait w' with status := if w' = w then .completed r else (m.wait w').status } := by
      intro w'
      rw [Heap.modify_cell]
      split
      · rename_i he; subst he; rfl
      · rfl
    have hout : ∀ w' : Nat, ({ m.wait w' with
        status := if w' = w then .completed r else (m.wait w').status } : Wait).outstanding
          = (m.wait w').outstanding := by
      intro w'
      by_cases he : w' = w
      · subst he
        rw [hold]
        simp [Wait.outstanding]
      · simp only [if_neg he, Wait.outstanding]
    refine ⟨h.dataLt, h.sockLt, h.dataInj, h.sockInj, h.dataSock, ?_, ?_, ?_, ?_, ?_,
      h.handlerFd, h.handlerRemoved⟩
    · intro w' hw
      simp only [wait, hcell, hout] at hw ⊢
      exact h.waitLt hw
    · intro s sd o w' hs ho hw he
      simp only [wait, hcell, hout] at hw he ⊢
      exact h.current hs ho hw he
    · intro w' hw
      simp only [wait, hcell] at hw ⊢
      split at hw
      · rename_i he
        subst he
        simp only [WaitStatus.completed.injEq] at hw
        exact hab hw
      · exact h.aborted hw
    · intro w₁ w₂ hw hlt he hd
      simp only [wait, hcell, hout] at hw he hd
      exact h.latest hw hlt he hd
    · intro sd dir
      simp only [wait, hcell, hout]
      exact h.armedIff sd dir
  · simp at ha

/-- The handler of a completed wait starts: the wait is over and its flag is clear. -/
theorem dispatch {w : Nat} {r : WaitResult} (h : Tracking m)
    (hst : (m.wait w).status = .completed r) :
    Tracking { m with
      asio := m.asio.markDispatched w r
      socketData := m.socketData.modify (m.wait w).sd fun d => d.setArmed (m.wait w).dir false } := by
  have hold : (m.wait w).outstanding = true := by simp [wait, Wait.outstanding, hst]
  have hself : ((m.asio.markDispatched w r).waits.cell w).outstanding = false := by
    rw [Wait.outstanding, m.asio.markDispatched_self]
  have hne : ∀ {w' : Nat}, ((m.asio.markDispatched w r).waits.cell w').outstanding = true →
      w' ≠ w := by
    intro w' hw he
    rw [he, hself] at hw
    simp at hw
  have hother : ∀ {w' : Nat}, w' ≠ w →
      (m.asio.markDispatched w r).waits.cell w' = m.wait w' := m.asio.markDispatched_ne r
  have hbound := m.asio.markDispatched_bound w r
  refine ⟨h.dataLt, h.sockLt, h.dataInj, h.sockInj, h.dataSock, ?_, ?_, ?_, ?_, ?_,
    h.handlerFd, h.handlerRemoved⟩
  · intro w' hw
    have hw' := hne hw
    simp only [wait, hother hw'] at hw ⊢
    exact h.waitLt hw
  · intro s sd o w' hs ho hw he
    have hw' := hne hw
    simp only [wait, hother hw'] at hw he ⊢
    exact h.current hs ho hw he
  · intro w' hw
    by_cases he : w' = w
    · rw [he, wait, m.asio.markDispatched_self] at hw
      simp at hw
    · simp only [wait, hother he] at hw ⊢
      exact h.aborted hw
  · intro w₁ w₂ hw hlt he hd
    have hw' := hne hw
    simp only [wait, hother hw'] at hw
    simp only [wait, (hbound _).1, (hbound _).2] at he hd
    exact h.latest hw hlt he hd
  · intro sd dir
    show ((m.socketData.modify (m.wait w).sd fun d => d.setArmed (m.wait w).dir false).cell
      sd).armed dir = true ↔ _
    have hflag : ((m.socketData.modify (m.wait w).sd fun d =>
        d.setArmed (m.wait w).dir false).cell sd).armed dir
          = if sd = (m.wait w).sd ∧ dir = (m.wait w).dir then false
            else (m.data sd).armed dir := by
      rw [Heap.modify_cell]
      by_cases hs : sd = (m.wait w).sd
      · rw [if_pos hs, armed_setArmed, hs]
        by_cases hd : dir = (m.wait w).dir <;> simp [hd]
      · rw [if_neg hs, if_neg (fun hc => hs hc.1)]
    rw [hflag]
    by_cases hthis : sd = (m.wait w).sd ∧ dir = (m.wait w).dir
    · rw [if_pos hthis]
      refine ⟨fun hc => Bool.noConfusion hc, ?_⟩
      rintro ⟨w', hw, he, hd⟩
      -- a second outstanding wait of this direction would be this one
      have hw' := hne hw
      simp only [wait, hother hw'] at hw he hd
      have hle : w' ≤ w := h.latest hold (h.waitLt hw).1 (he.trans hthis.1) (hd.trans hthis.2)
      have hge : w ≤ w' := h.latest hw (h.waitLt hold).1 (hthis.1.symm.trans he.symm)
        (hthis.2.symm.trans hd.symm)
      exact absurd (Nat.le_antisymm hle hge) hw'
    · rw [if_neg hthis, h.armedIff]
      constructor
      · rintro ⟨w', hw, he, hd⟩
        have hw' : w' ≠ w := by
          rintro rfl
          exact hthis ⟨he.symm, hd.symm⟩
        exact ⟨w', by simpa only [wait, hother hw'] using ⟨hw, he, hd⟩⟩
      · rintro ⟨w', hw, he, hd⟩
        have hw' := hne hw
        simp only [wait, hother hw'] at hw he hd
        exact ⟨w', hw, he, hd⟩

theorem asioSocketActionCallback {w : Nat} {r : WaitResult} (h : Tracking m)
    (hst : (m.wait w).status = .completed r) :
    Tracking (({ m with asio := m.asio.markDispatched w r } : CurlMulti).asioSocketActionCallback
      w (m.wait w).dir (m.wait w).fd (m.wait w).sd r) := by
  have hd := h.dispatch hst
  have hlt : (m.wait w).sd < m.socketData.next :=
    (h.waitLt (by simp [wait, Wait.outstanding, hst])).2
  unfold CurlMulti.asioSocketActionCallback
  dsimp only
  split
  · exact hd
  · split
    · exact hd
    · split
      · exact hd
      · split
        · exact hd
        · rename_i htracked
          simp only [ne_eq, not_not] at htracked
          refine Tracking.push ?_ _
          refine ⟨hd.dataLt, hd.sockLt, hd.dataInj, hd.sockInj, hd.dataSock, hd.waitLt,
            hd.current, hd.aborted, hd.latest, hd.armedIff, ?_, ?_⟩
          · intro dir s sd error phase hh
            simp only [Option.some.injEq, Handler.socket.injEq] at hh
            obtain ⟨-, rfl, rfl, -, -⟩ := hh
            exact ⟨hlt, fun s' hs' => h.dataInj hs' htracked⟩
          · intro dir s sd error phase hh _
            exact Finset.notMem_empty _

theorem rearm {dir : Dir} {s : Fd} {sd : SocketDataId} {error : Bool} {phase : Phase}
    {oom : Option Dir} (h : Tracking m)
    (hh : m.handler = some (.socket dir s sd error phase)) :
    Tracking (m.rearm s sd error oom).1 := by
  have hcancel : ∀ {c : Prop} [Decidable c],
      Tracking (if c then m.cancelTimer else m) ∧
        (if c then m.cancelTimer else m).handler = m.handler := by
    intro c _
    split
    · exact ⟨h.cancelTimer, rfl⟩
    · exact ⟨h, rfl⟩
  unfold CurlMulti.rearm
  dsimp only
  obtain ⟨ht, hhandler⟩ := hcancel (c := m.runningHandles ≤ 0)
  generalize (if m.runningHandles ≤ 0 then m.cancelTimer else m) = m₁ at ht hhandler ⊢
  rw [hh] at hhandler
  split
  · exact ht
  · rename_i o ho
    split
    · refine ht.armWaits ⟨(ht.handlerFd hhandler).1, fun {s'} hs' => ?_⟩
      obtain rfl := (ht.handlerFd hhandler).2 s' hs'
      exact ⟨rfl, ho⟩
    · exact ht

/-- The handler on the stack is replaced by one for the same object, or by a timer's. -/
theorem setHandler {handler : Option Handler} (h : Tracking m)
    (hh : ∀ dir s sd error phase, handler = some (.socket dir s sd error phase) →
      ∃ phase', m.handler = some (.socket dir s sd error phase')) :
    Tracking { m with handler := handler } := by
  refine ⟨h.dataLt, h.sockLt, h.dataInj, h.sockInj, h.dataSock, h.waitLt, h.current, h.aborted,
    h.latest, h.armedIff, ?_, ?_⟩
  · intro dir s sd error phase he
    obtain ⟨phase', hm⟩ := hh dir s sd error phase he
    exact h.handlerFd hm
  · intro dir s sd error phase he
    obtain ⟨phase', hm⟩ := hh dir s sd error phase he
    exact h.handlerRemoved hm

theorem pollCatch {x : CurlMulti × Except Exn Unit} (h : Tracking x.1) :
    Tracking (CurlMulti.pollCatch x) := by
  unfold CurlMulti.pollCatch
  split
  · exact h.popHandler
  · exact h.printUnlessDetached.popHandler

theorem boot : Tracking CurlMulti.boot where
  dataLt := by intro s sd h; simp [CurlMulti.boot] at h
  sockLt := by intro s o h; simp [CurlMulti.boot] at h
  dataInj := by intro s s' sd h; simp [CurlMulti.boot] at h
  sockInj := by intro s s' o h; simp [CurlMulti.boot] at h
  dataSock := by intro s sd h; simp [CurlMulti.boot] at h
  waitLt := by intro w h; simp [CurlMulti.boot, wait, Asio.boot, Heap.empty, Wait.outstanding] at h
  current := by intro s sd o w h; simp [CurlMulti.boot] at h
  aborted := by intro w h; simp [CurlMulti.boot, wait, Asio.boot, Heap.empty] at h
  latest := by intro w w' h; simp [CurlMulti.boot, wait, Asio.boot, Heap.empty, Wait.outstanding] at h
  armedIff := by
    intro sd dir
    cases dir <;> simp [CurlMulti.boot, data, wait, Asio.boot, Heap.empty, Wait.outstanding,
      SocketData.armed]
  handlerFd := by intro dir s sd error phase h; simp [CurlMulti.boot] at h
  handlerRemoved := by intro dir s sd error phase h; simp [CurlMulti.boot] at h

/-- **Every action keeps the invariant.** -/
theorem next {a : Action} (h : Tracking m) (hn : m.next a = some m') : Tracking m' := by
  cases next_fires hn with
  | socketCallback s what refusal oom => exact h.curlSocketCallbackStatic
  | openSocketCallback purpose family reply hfree => exact h.curlOpenSocketCallback
  | closeSocketCallback s => exact h.curlCloseSocketCallback
  | timerCallback t => exact h.curlTimerCallback
  | complete w r asio ha => exact h.complete ha
  | dispatch w r hidle hst => exact h.asioSocketActionCallback hst
  | dispatchTimer t r hidle hst =>
      have ht : Tracking { m with timer := m.timer.modify t fun x =>
          { x with status := .dispatched r } } := h.of_eq rfl rfl rfl rfl rfl rfl rfl
      unfold CurlMulti.asioTimerCallback
      split
      · exact ht
      · split
        · exact ht
        · exact (ht.setHandler (by simp)).push _
  | runPosted hidle hposted =>
      have ht : Tracking { m with posted := m.posted - 1 } := h.of_eq rfl rfl rfl rfl rfl rfl rfl
      unfold CurlMulti.postedTask
      split
      · exact ht
      · exact (ht.setHandler (by simp)).push _
  | socketActionReturn running dir s sd error hh =>
      have ht : Tracking { m with runningHandles := running } := h.of_eq rfl rfl rfl rfl rfl rfl rfl
      refine ht.setHandler ?_
      intro dir' s' sd' error' phase he
      simp only [Option.some.injEq, Handler.socket.injEq] at he
      obtain ⟨rfl, rfl, rfl, rfl, -⟩ := he
      exact ⟨_, hh⟩
  | timerActionReturn running hh =>
      have ht : Tracking { m with runningHandles := running } := h.of_eq rfl rfl rfl rfl rfl rfl rfl
      exact ht.setHandler (by simp)
  | socketReturn oom dir s sd error hh => exact (h.rearm hh).pollCatch
  | timerReturn oom hh => exact h.popHandler
  | checkMultiInfoThrow hh => exact pollCatch h
  | shutdown hidle =>
      unfold CurlMulti.shutdown
      split
      · exact h.of_eq rfl rfl rfl rfl rfl rfl rfl
      · exact h
  | _ => exact h.of_eq rfl rfl rfl rfl rfl rfl rfl

end Tracking

/-- The invariant holds in every state `CurlMulti` can reach. -/
theorem tracking {C : CurlMulti → Action → Prop} {tr : List Action} {m : CurlMulti}
    (h : machine.Run C tr m) : Tracking m :=
  h.invariant .boot fun _ _ _ hm _ hn => hm.next hn

end CurlMulti

end AmxxCurl
