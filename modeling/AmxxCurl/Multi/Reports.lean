/-
Readiness reports are exact.

A handler may run long after its wait completed: after its fd was removed, added
again, closed, and opened as another connection.  Whether it reports is decided by
one comparison, of the `SocketData` it holds with the one tracked now.  `Tracking`
says why that is enough: a tracked `SocketData` has had one socket object all along,
and no wait of it was cancelled.

Each report is traced back to the dispatch it came from, and each dispatch of a wait
that is current forward to its one report.
-/
import AmxxCurl.Multi.Sockets

namespace AmxxCurl

/-- A report made by the handler of `w`. -/
def Event.isReport (w : WaitId) : Event → Bool
  | .socketAction w' _ _ => w' == w
  | _ => false

/-- What libcurl is told of a wait: its one direction, or an error. -/
def Dir.reported (dir : Dir) (r : WaitResult) : Select :=
  if r = .error then .selectErr else dir.select

namespace CurlMulti

variable {m m' : CurlMulti} {C : CurlMulti → Action → Prop} {tr : List Action}

/-! ### What a step logs -/

theorem NoReport.isReport {w : WaitId} {e : Event} (h : NoReport e) :
    e.isReport w = false := by
  cases e <;> first | rfl | exact False.elim h

/-- No report comes from a step that dispatches no socket handler. -/
theorem next_log {a : Action} (hn : m.next a = some m') (ha : ∀ w, a ≠ .dispatch w) :
    Appends NoReport m.log m'.log ∧ Asio.Ages m.asio m'.asio := by
  by_cases hdetach : a = .detach
  · subst hdetach
    obtain rfl := Option.some.inj hn
    exact ⟨.refl _, .of_eq rfl⟩
  · by_cases hshut : a = .shutdown
    · subst hshut
      cases next_fires hn with
      | shutdown hidle =>
          unfold shutdown
          split
          · exact ⟨.one trivial, .of_eq rfl⟩
          · exact ⟨.refl _, .of_eq rfl⟩
    · have he := next_emits hn ha hdetach hshut
      exact ⟨he.log, he.waits⟩

theorem asioSocketActionCallback_asio {w : WaitId} {dir : Dir} {s : Fd} {sd : SocketDataId}
    {r : WaitResult} : (m.asioSocketActionCallback w dir s sd r).asio = m.asio := by
  unfold asioSocketActionCallback
  dsimp only
  repeat' split
  all_goals rfl

/-- The wait is completed, not aborted, and bound to what its fd has now. -/
structure Current (m : CurlMulti) (w : Nat) (r : WaitResult) : Prop where
  completed : (m.wait w).status = .completed r
  notAborted : r ≠ .aborted
  data : m.socketDataMap.lookup (m.wait w).fd = some (m.wait w).sd

/-- The dispatch of `w` reports iff the multi is alive and `w` is current, and then once. -/
theorem dispatch_log {w : Nat} (ht : Tracking m) (hn : m.next (.dispatch w) = some m') :
    w < m.asio.waits.next ∧ Asio.Ages m.asio m'.asio ∧
    ∃ r, (m.wait w).status = .completed r ∧ (m'.wait w).status = .dispatched r ∧
      (m'.log = m.log ∧ ¬(m.curlMulti = true ∧ Current m w r) ∨
        m'.log = m.log ++ [.socketAction w (m.wait w).fd ((m.wait w).dir.reported r)] ∧
          Current m w r) := by
  cases next_fires hn with
  | dispatch _ r hidle hst =>
      have hout : (m.wait w).outstanding = true := by
        have : (m.wait w).status = .completed r := hst
        simp [Wait.outstanding, this]
      refine ⟨(ht.waitLt hout).1, ⟨?_, ?_⟩, r, hst, ?_, ?_⟩
      · rw [asioSocketActionCallback_asio]
        exact Nat.le_refl _
      · intro w' _ r' hr'
        rw [asioSocketActionCallback_asio]
        have hne : w' ≠ w := by
          rintro rfl
          rw [hst] at hr'
          simp at hr'
        rwa [m.asio.markDispatched_ne r hne]
      · rw [wait, asioSocketActionCallback_asio]
        exact m.asio.markDispatched_self w r
      · obtain ⟨-, -, hcase⟩ := asioSocketActionCallback_cases
          { m with asio := m.asio.markDispatched w r } w (m.wait w).dir (m.wait w).fd (m.wait w).sd r
        rcases hcase with ⟨hlog, hno⟩ | ⟨hlog, -, hr, hdata, -⟩
        · refine Or.inl ⟨hlog, ?_⟩
          rintro ⟨halive, hcur⟩
          -- a tracked fd has a socket, so the one early return left is not taken
          obtain ⟨o, ho⟩ := ht.dataSock hcur.data
          rw [show m.socketMap.lookup (m.wait w).fd = none from
            hno halive hcur.notAborted hcur.data] at ho
          simp at ho
        · exact Or.inr ⟨hlog, hst, hr, hdata⟩

/-- The log only grows. -/
theorem next_log_mono {a : Action} {e : Event} (ht : Tracking m) (hn : m.next a = some m')
    (he : e ∈ m.log) : e ∈ m'.log := by
  by_cases ha : ∃ w, a = .dispatch w
  · obtain ⟨w, rfl⟩ := ha
    obtain ⟨-, -, r, -, -, ⟨hlog, -⟩ | ⟨hlog, -⟩⟩ := dispatch_log ht hn
    · rwa [hlog]
    · rw [hlog]
      exact List.mem_append_left _ he
  · exact (next_log hn fun w hw => ha ⟨w, hw⟩).1.mem he

/-! ### At most one report a wait -/

/-- A wait that has been reported has been dispatched, and it was reported once. -/
structure Reported (m : CurlMulti) : Prop where
  dispatched : ∀ {w s ev}, .socketAction w s ev ∈ m.log →
    w < m.asio.waits.next ∧ ∃ r, (m.wait w).status = .dispatched r
  once : ∀ w, m.log.countP (Event.isReport w) ≤ 1

theorem Reported.next {a : Action} (h : Reported m) (ht : Tracking m)
    (hn : m.next a = some m') : Reported m' := by
  by_cases ha : ∃ w, a = .dispatch w
  · obtain ⟨w, rfl⟩ := ha
    obtain ⟨hlt, hages, r, hst, hst', hlog⟩ := dispatch_log ht hn
    have hkeep : ∀ {w' s ev}, .socketAction w' s ev ∈ m.log →
        w' < m'.asio.waits.next ∧ ∃ r, (m'.wait w').status = .dispatched r := by
      intro w' s ev he
      obtain ⟨hlt', r', hr'⟩ := h.dispatched he
      exact ⟨Nat.lt_of_lt_of_le hlt' hages.next_le, r', hages.dispatched w' hlt' r' hr'⟩
    rcases hlog with ⟨hlog, -⟩ | ⟨hlog, -⟩
    · exact ⟨fun he => hkeep (by rwa [hlog] at he), fun w' => by rw [hlog]; exact h.once w'⟩
    · refine ⟨fun {w' s ev} he => ?_, fun w' => ?_⟩
      · rw [hlog] at he
        rcases List.mem_append.mp he with he | he
        · exact hkeep he
        · obtain ⟨rfl, -, -⟩ := Event.socketAction.inj (List.mem_singleton.mp he)
          exact ⟨Nat.lt_of_lt_of_le hlt hages.next_le, r, hst'⟩
      · rw [hlog, List.countP_append]
        by_cases hw : w = w'
        · -- it was only completed, so nothing was reported of it before
          have hzero : m.log.countP (Event.isReport w') = 0 := by
            rw [List.countP_eq_zero]
            intro e he hrep
            cases e <;> simp only [Event.isReport, beq_iff_eq, Bool.false_eq_true] at hrep
            obtain ⟨-, r', hr'⟩ := h.dispatched he
            rw [hrep, ← hw, hst] at hr'
            simp at hr'
          rw [hzero, Nat.zero_add]
          exact List.countP_le_length
        · have hno : (Event.socketAction w (m.wait w).fd ((m.wait w).dir.reported r)).isReport w'
              = false := by simpa [Event.isReport] using hw
          simpa [List.countP_cons, hno] using h.once w'
  · obtain ⟨hlog, hages⟩ := next_log hn fun w hw => ha ⟨w, hw⟩
    refine ⟨fun {w s ev} he => ?_, fun w => ?_⟩
    · obtain ⟨hlt, r, hr⟩ := h.dispatched ((hlog.mem_or he).resolve_right id)
      exact ⟨Nat.lt_of_lt_of_le hlt hages.next_le, r, hages.dispatched w hlt r hr⟩
    · rw [hlog.countP_eq fun e he => he.isReport]
      exact h.once w

theorem reported (h : machine.Run C tr m) : Reported m :=
  h.invariant_of tracking ⟨by simp [machine, boot], by simp [machine, boot]⟩
    fun _ _ _ ht hr _ hn => hr.next ht hn

/-! ### What is tracked is wanted -/

/-- What libcurl last asked of `s`. -/
def lastWhat (s : Fd) (tr : List Action) : Option CInt :=
  tr.foldl (fun last a =>
    match a with
    | .socketCallback s' what _ _ => if s' = s then some what else last
    | _ => last) none

/-- The socket callback of one fd is nothing to another. -/
theorem curlSocketCallback_other {s s' : Fd} {what : CInt} {refusal : Kernel.Refusal}
    {oom : Option Dir} (hs : s ≠ s') :
    (m.curlSocketCallbackStatic s' what refusal oom).1.socketDataMap.lookup s
      = m.socketDataMap.lookup s := by
  have hcb : (m.curlSocketCallback s' what refusal oom).1.socketDataMap.lookup s
      = m.socketDataMap.lookup s := by
    unfold curlSocketCallback
    split
    · split
      · rfl
      · unfold removeSocket
        split
        · exact (Table.lookup_erase_if ..).trans (if_neg hs)
        · split
          · split
            · rfl
            · exact (Table.lookup_erase_if ..).trans (if_neg hs)
          · exact (Table.lookup_erase_if ..).trans (if_neg hs)
    · dsimp only
      split
      · split
        · rfl
        · rw [Still.setSock.socketDataMap]
      · have hadd : (m.addSocket s' refusal).1.socketDataMap.lookup s
            = m.socketDataMap.lookup s := by
          unfold addSocket
          split
          · exact (Table.lookup_insert_if ..).trans (if_neg hs)
          · dsimp only
            split
            · exact congrArg (fun t => Finmap.lookup s t) (Still.printUnlessDetached _).socketDataMap
            · exact (Table.lookup_insert_if ..).trans (if_neg hs)
        split
        · rename_i m₁ he
          rw [he] at hadd
          exact hadd
        · rename_i m₁ sd he
          rw [he] at hadd
          split
          · exact hadd
          · rw [Still.setSock.socketDataMap]
            exact hadd
  unfold curlSocketCallbackStatic
  split
  · rename_i m₁ u he
    rw [he] at hcb
    exact hcb
  · rename_i m₁ e he
    rw [he] at hcb
    rw [(Still.printUnlessDetached m₁).socketDataMap]
    exact hcb

/-- Only the socket callback of an fd tracks it. -/
theorem next_untracks {a : Action} {s : Fd} {sd : SocketDataId} (hnat : Native m)
    (ht : Tracking m) (hn : m.next a = some m')
    (ha : ∀ what refusal oom, a ≠ .socketCallback s what refusal oom)
    (hs : m'.socketDataMap.lookup s = some sd) : m.socketDataMap.lookup s = some sd := by
  by_cases hon : a.OnSocket
  · cases next_fires hn with
    | socketCallback s' what refusal oom =>
        rwa [curlSocketCallback_other fun he => ha what refusal oom (by rw [he])] at hs
    | openSocketCallback purpose family reply hfree =>
        rcases hnat.curlOpenSocketCallback_cases ht purpose family reply with
          he | ⟨s', a, o, -, ho⟩
        · rwa [he] at hs
        · rcases hsock : m.socketMap.lookup s' with _ | stale
          · rwa [(ho.fresh hsock).2] at hs
          · rw [(ho.evicted stale hsock).2] at hs
            exact (Table.lookup_erase_eq_some.mp hs).2
    | closeSocketCallback s' =>
        unfold curlCloseSocketCallback at hs
        have hdata : ∀ o, (m.destroySocket o).socketDataMap = m.socketDataMap :=
          fun o => (Tracking.destroySocket_asio m o).2.2.1
        dsimp only at hs
        obtain ⟨-, hs⟩ := Table.lookup_erase_eq_some.mp hs
        split at hs
        · exact hs
        · rwa [← hdata]
    | foreignOpen s' hfree => exact hs
    | foreignClose s' => exact hs
    | _ => exact hon.elim
  · rwa [(next_still hn hon).socketDataMap] at hs

/-- REMOVE untracks its fd. -/
theorem remove_untracks {s : Fd} {refusal : Kernel.Refusal} {oom : Option Dir}
    (hnat : Native m) :
    (m.curlSocketCallbackStatic s CURL_POLL_REMOVE refusal oom).1.socketDataMap.lookup s
      = none := by
  unfold curlSocketCallbackStatic curlSocketCallback
  rw [if_pos rfl]
  rcases hsd : m.socketDataMap.lookup s with _ | sd
  · exact hsd
  · have hgone : ∀ t : Table Fd SocketDataId, (t.erase s).lookup s = none := fun t =>
      Finmap.lookup_erase s t
    unfold removeSocket
    rcases ho : m.socketMap.lookup s with _ | o
    · exact hgone _
    · dsimp only
      by_cases hares : (m.socketData.cell sd).isAresSocket = true
      · -- `release()` does not throw: the object is open
        rw [if_pos hares]
        obtain ⟨a, ha⟩ := Option.isSome_iff_exists.mp (Asio.release_isSome (hnat ho))
        rw [ha]
        exact hgone _
      · rw [if_neg hares]
        exact hgone _

theorem lastWhat_snoc (s : Fd) (tr : List Action) (a : Action) :
    lastWhat s (tr ++ [a]) = match a with
      | .socketCallback s' what _ _ => if s' = s then some what else lastWhat s tr
      | _ => lastWhat s tr := by
  unfold lastWhat
  rw [List.foldl_append]
  cases a <;> rfl

/-- A tracked fd is one libcurl has not removed since it last asked for it. -/
theorem tracked_wanted (h : machine.Run C tr m) :
    ∀ ⦃s sd⦄, m.socketDataMap.lookup s = some sd →
      ∃ what, lastWhat s tr = some what ∧ what ≠ CURL_POLL_REMOVE := by
  refine h.history (P := fun tr m => ∀ ⦃s sd⦄, m.socketDataMap.lookup s = some sd →
      ∃ what, lastWhat s tr = some what ∧ what ≠ CURL_POLL_REMOVE)
    (by intro s sd hs; simp [machine, boot] at hs) ?_
  intro tr m a m' hr ih hc hn s sd hs
  rw [lastWhat_snoc]
  by_cases ha : ∃ what refusal oom, a = .socketCallback s what refusal oom
  · obtain ⟨what, refusal, oom, rfl⟩ := ha
    refine ⟨what, if_pos rfl, ?_⟩
    rintro rfl
    obtain rfl := Option.some.inj hn
    rw [remove_untracks (native hr)] at hs
    simp at hs
  · have hold := next_untracks (native hr) (tracking hr) hn
      (fun what refusal oom he => ha ⟨what, refusal, oom, he⟩) hs
    obtain ⟨what, hlast, hwhat⟩ := ih hold
    refine ⟨what, ?_, hwhat⟩
    cases a <;> first | exact hlast | skip
    case socketCallback s' what' refusal oom =>
      have hne : s' ≠ s := fun he => ha ⟨what', refusal, oom, by rw [he]⟩
      exact (if_neg hne).trans hlast

/-! ### Every report and every current wait -/

/--
Each report of the run is that of one dispatched wait, current when it was dispatched;
each wait that is current when it is dispatched is reported once.
-/
structure ExactReports (tr : List Action) (m : CurlMulti) : Prop where
  /-- A report stems from the dispatch of an uncancelled wait, armed on the socket object
  and for the `SocketData` its fd has at that moment, an fd libcurl has not removed. -/
  stems : ∀ ⦃w s ev⦄, .socketAction w s ev ∈ m.log →
    ∃ t₁ t₂ m₁ r, tr = t₁ ++ .dispatch w :: t₂ ∧ machine.Run Machine.Free t₁ m₁ ∧
      Current m₁ w r ∧ s = (m₁.wait w).fd ∧ ev = (m₁.wait w).dir.reported r ∧
      m₁.socketMap.lookup s = some (m₁.wait w).sock ∧ (m₁.wait w).cancelled = false ∧
      ∃ what, lastWhat s t₁ = some what ∧ what ≠ CURL_POLL_REMOVE
  once : ∀ w, m.log.countP (Event.isReport w) ≤ 1
  complete : ∀ ⦃t₁ t₂ w m₁ r⦄, tr = t₁ ++ .dispatch w :: t₂ → machine.Run Machine.Free t₁ m₁ →
    m₁.curlMulti = true → Current m₁ w r → m.log.countP (Event.isReport w) = 1

/-- **Readiness reports are exact, whatever happened to the fd number in between.** -/
theorem reports_are_exact (h : machine.Run Machine.Free tr m) : ExactReports tr m where
  stems := by
    intro w s ev he
    obtain ⟨t₁, a, t₂, m₁, m₂, rfl, h₁, -, hn, hnew, hold⟩ :=
      h.origin (Q := fun m => .socketAction w s ev ∈ m.log) (by simp [machine, boot]) he
    have ht := tracking h₁
    by_cases ha : ∃ w', a = .dispatch w'
    · obtain ⟨w', rfl⟩ := ha
      obtain ⟨-, -, r, hst, -, ⟨hlog, -⟩ | ⟨hlog, hcur⟩⟩ := dispatch_log ht hn
      · rw [hlog] at hold
        exact absurd hold hnew
      · rw [hlog] at hold
        have heq := List.mem_singleton.mp ((List.mem_append.mp hold).resolve_left hnew)
        obtain ⟨rfl, rfl, rfl⟩ := Event.socketAction.inj heq
        obtain ⟨o, ho⟩ := ht.dataSock hcur.data
        have hout : (m₁.wait w).outstanding = true := by simp [Wait.outstanding, hst]
        obtain ⟨-, hsock, hcancelled⟩ := ht.current hcur.data ho hout rfl
        exact ⟨t₁, t₂, m₁, r, rfl, h₁, hcur, rfl, rfl, hsock ▸ ho, hcancelled,
          tracked_wanted h₁ hcur.data⟩
    · exact absurd (((next_log hn fun w hw => ha ⟨w, hw⟩).1.mem_or hold).resolve_left hnew) id
  once := (reported h).once
  complete := by
    rintro t₁ t₂ w m₁ r rfl h₁ halive hcur
    refine Nat.le_antisymm ((reported h).once w) ?_
    -- the report is logged when the wait is dispatched, and stays
    obtain ⟨hrun, hmem⟩ := h.since
      (P := fun m => Tracking m ∧
        .socketAction w (m₁.wait w).fd ((m₁.wait w).dir.reported r) ∈ m.log)
      (by
        intro s₁ s₂ hs₁ _ hn
        obtain rfl := hs₁.unique h₁
        have ht := tracking h₁
        refine ⟨ht.next (a := .dispatch w) hn, ?_⟩
        obtain ⟨-, -, r', hst, -, hlog⟩ := dispatch_log ht hn
        obtain rfl : r' = r := by
          have := hst.symm.trans hcur.completed
          simpa using this
        rcases hlog with ⟨-, hno⟩ | ⟨hlog, -⟩
        · exact absurd ⟨halive, hcur⟩ hno
        · rw [hlog]
          exact List.mem_append_right _ (List.mem_singleton_self _))
      (fun _ _ _ hP _ hn => ⟨hP.1.next hn, next_log_mono hP.1 hn hP.2⟩)
    exact List.countP_pos_iff.mpr ⟨_, hmem, by simp [Event.isReport]⟩

/--
Keep-alive: the read wait of one generation has completed when libcurl removes the fd
and adds it again; its handler runs only after the new generation has been armed.
-/
def regenerating : List Action :=
  [.openSocketCallback .ipcxn .inet (some 5),
   .socketCallback 5 CURL_POLL_IN .none none,
   .complete 0 .ok,
   .socketCallback 5 CURL_POLL_REMOVE .none none,
   .socketCallback 5 CURL_POLL_IN .none none,
   .dispatch 0,
   .complete 1 .ok,
   .dispatch 1]

def regenerated : CurlMulti := (machine.exec Machine.Free boot regenerating).get (by decide)

theorem reports_are_exact_regenerated : ExactReports regenerating regenerated :=
  reports_are_exact (Machine.run_of_exec (Option.some_get _).symm)

example : regenerated.log.countP (Event.isReport 0) = 0 ∧
    regenerated.log.countP (Event.isReport 1) = 1 := by decide

end CurlMulti

end AmxxCurl
