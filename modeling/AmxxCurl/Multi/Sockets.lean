/-
Which callbacks touch the sockets.

Most of `CurlMulti` only starts waits and passes readiness on.  `Still` collects what
all of it leaves alone: both maps, every socket object, the descriptor table.  What is
left are the three socket callbacks and the rest of the process.

A mapped socket object holds the number it is mapped under, so `release()` never
throws from inside a callback, and REMOVE always untracks its fd.
-/
import AmxxCurl.Multi.Frames

namespace AmxxCurl

namespace CurlMulti

variable {m m' m'' : CurlMulti}

/-! ### What leaves the sockets alone -/

/-- Neither a file opened nor one closed. -/
def NoFile : Event → Prop
  | .opened _ _ => False
  | .closed _ _ => False
  | _ => True

theorem Quiet.noFile {e : Event} (h : Quiet e) : NoFile e := by
  cases e <;> trivial

/-- The maps, the socket objects and the kernel are the same. -/
structure Still (m m' : CurlMulti) : Prop where
  socketMap : m'.socketMap = m.socketMap
  socketDataMap : m'.socketDataMap = m.socketDataMap
  socks : m'.asio.socks = m.asio.socks
  kernel : m'.asio.kernel = m.asio.kernel
  ares : ∀ sd, (m'.data sd).isAresSocket = (m.data sd).isAresSocket
  log : Appends NoFile m.log m'.log

namespace Still

theorem of_log (hsock : m'.socketMap = m.socketMap) (hdata : m'.socketDataMap = m.socketDataMap)
    (hasio : m'.asio = m.asio) (hsd : m'.socketData = m.socketData)
    (hlog : Appends NoFile m.log m'.log) : Still m m' :=
  ⟨hsock, hdata, by rw [hasio], by rw [hasio], fun sd => by rw [data, hsd], hlog⟩

theorem of_apart (h : Apart m m') (hlog : Appends NoFile m.log m'.log) : Still m m' :=
  .of_log h.socketMap h.socketDataMap h.asio h.socketData hlog

theorem refl (m : CurlMulti) : Still m m := .of_apart (.refl m) (.refl _)

theorem trans (h : Still m m') (h' : Still m' m'') : Still m m'' where
  socketMap := h'.socketMap.trans h.socketMap
  socketDataMap := h'.socketDataMap.trans h.socketDataMap
  socks := h'.socks.trans h.socks
  kernel := h'.kernel.trans h.kernel
  ares := fun sd => (h'.ares sd).trans (h.ares sd)
  log := h.log.trans h'.log

theorem push {e : Event} (he : NoFile e) : Still m (m.push e) :=
  .of_log rfl rfl rfl rfl (.one he)

theorem printUnlessDetached (m : CurlMulti) : Still m m.printUnlessDetached := by
  unfold CurlMulti.printUnlessDetached
  split
  · exact .refl m
  · exact .push trivial

theorem of_arms {sd : SocketDataId} (h : Arms sd m m') : Still m m' where
  socketMap := h.socketMap
  socketDataMap := h.socketDataMap
  socks := h.socks
  kernel := h.kernel
  ares := by
    intro sd'
    by_cases he : sd' = sd
    · subst he
      exact h.ares
    · rw [h.other sd' he]
  log := by rw [h.log]; exact .refl _

theorem setSock {act : CInt} {s : Fd} {sd : SocketDataId} {oom : Option Dir} :
    Still m (m.setSock act s sd oom).1 := by
  unfold CurlMulti.setSock
  split
  · exact .refl m
  · split
    · exact .refl m
    · rename_i o _
      have harm : Arms sd m (m.armWaits act s sd o oom).1 := armWaits_arms
      split
      · rename_i m₁ e he
        rw [he] at harm
        exact of_arms harm
      · rename_i m₁ he
        rw [he] at harm
        have hprev : Still m₁ { m₁ with
            socketData := m₁.socketData.modify sd fun d => { d with previousAction := act } } := by
          refine ⟨rfl, rfl, rfl, rfl, fun sd' => ?_, .refl _⟩
          by_cases hsd : sd' = sd
          · subst hsd
            simp [data]
          · simp only [data, Heap.modify_cell_ne _ _ hsd]
        exact (of_arms harm).trans hprev

theorem cancelTimer (m : CurlMulti) : Still m m.cancelTimer := .of_log rfl rfl rfl rfl (.refl _)

theorem pollCatch {x : CurlMulti × Except Exn Unit} : Still x.1 (CurlMulti.pollCatch x) := by
  unfold CurlMulti.pollCatch
  split
  · exact .of_log rfl rfl rfl rfl (.refl _)
  · exact (printUnlessDetached _).trans (.of_log rfl rfl rfl rfl (.refl _))

theorem rearm {s : Fd} {sd : SocketDataId} {error : Bool} {oom : Option Dir} :
    Still m (m.rearm s sd error oom).1 := by
  unfold CurlMulti.rearm
  dsimp only
  have hcancel : Still m (if m.runningHandles ≤ 0 then m.cancelTimer else m) := by
    split
    · exact cancelTimer m
    · exact .refl m
  generalize (if m.runningHandles ≤ 0 then m.cancelTimer else m) = m₁ at hcancel ⊢
  split
  · exact hcancel
  · split
    · exact hcancel.trans (of_arms armWaits_arms)
    · exact hcancel

theorem asioSocketActionCallback {w : WaitId} {dir : Dir} {s : Fd} {sd : SocketDataId}
    {r : WaitResult} : Still m (m.asioSocketActionCallback w dir s sd r) := by
  have hclear : Still m { m with
      socketData := m.socketData.modify sd fun d => d.setArmed dir false } := by
    refine ⟨rfl, rfl, rfl, rfl, fun sd' => ?_, .refl _⟩
    by_cases hsd : sd' = sd
    · subst hsd
      simp only [data, Heap.modify_cell_self]
      cases dir <;> rfl
    · simp only [data, Heap.modify_cell_ne _ _ hsd]
  unfold CurlMulti.asioSocketActionCallback
  dsimp only
  split
  · exact hclear
  · split
    · exact hclear
    · split
      · exact hclear
      · split
        · exact hclear
        · exact hclear.trans (.of_log rfl rfl rfl rfl (.one trivial))

end Still

/-- The actions that open, close, track or untrack a socket. -/
def Action.OnSocket : Action → Prop
  | .socketCallback .. => True
  | .openSocketCallback .. => True
  | .closeSocketCallback _ => True
  | .foreignOpen _ => True
  | .foreignClose _ => True
  | _ => False

/-- Every other action leaves the sockets alone. -/
theorem next_still {a : Action} (hn : m.next a = some m') (ha : ¬a.OnSocket) : Still m m' := by
  cases next_fires hn with
  | socketCallback => exact absurd trivial ha
  | openSocketCallback => exact absurd trivial ha
  | closeSocketCallback => exact absurd trivial ha
  | foreignOpen => exact absurd trivial ha
  | foreignClose => exact absurd trivial ha
  | timerCallback t => exact .of_apart (.curlTimerCallback m t) curlTimerCallback_emits.log
  | complete w r asio hc =>
      unfold Asio.complete at hc
      split at hc
      · obtain rfl := Option.some.inj hc
        exact ⟨rfl, rfl, rfl, rfl, fun _ => rfl, .refl _⟩
      · simp at hc
  | dispatch w r hidle hst =>
      have hmark : Still m { m with asio := m.asio.markDispatched w r } :=
        ⟨rfl, rfl, rfl, rfl, fun _ => rfl, .refl _⟩
      exact hmark.trans .asioSocketActionCallback
  | dispatchTimer t r hidle hst =>
      refine .of_apart (next_apart hn not_false) ?_
      unfold asioTimerCallback
      split
      · exact .refl _
      · split
        · exact .refl _
        · exact .one trivial
  | runPosted hidle hposted =>
      refine .of_apart (next_apart hn not_false) ?_
      unfold postedTask
      split
      · exact .refl _
      · exact .one trivial
  | socketReturn oom dir s sd error hh => exact Still.rearm.trans .pollCatch
  | checkMultiInfoThrow hh => exact Still.pollCatch (x := (m, .error .badAlloc))
  | shutdown hidle =>
      refine .of_apart (.shutdown m) ?_
      unfold shutdown
      split
      · exact .one trivial
      · exact .refl _
  | _ => exact .of_log rfl rfl rfl rfl (.refl _)

/-! ### Opening a socket -/

/--
The open callback has returned the number `s`, held by the new socket object `o`;
`a` is what `open` made of the poller.  A stale entry under the same number has been
released and is gone.
-/
structure Opens (m m' : CurlMulti) (s : Fd) (a : Asio) (o : SockId) : Prop where
  openSocket : m.asio.openSocket s = some (a, o)
  fresh : m.socketMap.lookup s = none → m'.asio = a ∧ m'.socketDataMap = m.socketDataMap
  evicted : ∀ stale, m.socketMap.lookup s = some stale →
    a.release stale = some m'.asio ∧ m'.socketDataMap = m.socketDataMap.erase s
  socketMap : ∀ j, m'.socketMap.lookup j = if j = s then some o else m.socketMap.lookup j
  socketData : m'.socketData = m.socketData
  log : ∃ l, Appends Quiet m.log l ∧ m'.log = l ++ [.opened s m.asio.kernel.nextFile]

theorem evictStale_ok {s : Fd} {o : SockId} (h : m.evictStale s o = (m', .ok ())) :
    (m.socketMap.lookup s = none → m' = m) ∧
    (∀ stale, m.socketMap.lookup s = some stale →
      m.asio.release stale = some m'.asio ∧ m'.socketDataMap = m.socketDataMap.erase s) ∧
    (∀ j, m'.socketMap.lookup j = if j = s then none else m.socketMap.lookup j) ∧
    m'.socketData = m.socketData ∧ Appends Quiet m.log m'.log := by
  unfold evictStale at h
  split at h
  · rename_i hnone
    obtain ⟨rfl, -⟩ := Prod.mk.inj h
    refine ⟨fun _ => rfl, by simp [hnone], fun j => ?_, rfl, .refl _⟩
    split
    · rename_i hj
      rw [hj, hnone]
    · rfl
  · rename_i stale hstale
    split at h
    · simp at h
    · rename_i a ha
      obtain ⟨hm, -⟩ := Prod.mk.inj h
      have hstill := Still.printUnlessDetached { m with
        asio := a
        socketMap := m.socketMap.erase s
        socketDataMap := m.socketDataMap.erase s }
      have hlog := (printUnlessDetached_emits (m := { m with
        asio := a
        socketMap := m.socketMap.erase s
        socketDataMap := m.socketDataMap.erase s })).log
      have hasio : ∀ m₁ : CurlMulti, m₁.printUnlessDetached.asio = m₁.asio ∧
          m₁.printUnlessDetached.socketData = m₁.socketData := by
        intro m₁
        unfold CurlMulti.printUnlessDetached
        split <;> exact ⟨rfl, rfl⟩
      rw [hm] at hstill hlog
      refine ⟨by simp [hstale], ?_, ?_, ?_, hlog⟩
      · intro stale' hs
        obtain rfl := Option.some.inj (hstale.symm.trans hs)
        rw [← hm, (hasio _).1]
        exact ⟨ha, by rw [hm]; exact hstill.socketDataMap⟩
      · intro j
        rw [hstill.socketMap]
        exact Table.lookup_erase_if ..
      · rw [← hm]
        exact (hasio _).2

/-- The open callback returns `CURL_SOCKET_BAD` and does nothing, or it opens a socket. -/
theorem curlOpenSocketCallback_ok {purpose : SockType} {family : Family} {reply : Option Fd}
    {s : Fd} (h : m.curlOpenSocketCallback purpose family reply = (m', .ok s)) :
    (m' = m ∧ s = curlSocketBad) ∨ (reply = some s ∧ ∃ a o, Opens m m' s a o) := by
  have hbad : ∀ {r : Fd}, ((m, .ok r) : CurlMulti × Except Exn Fd) = (m', .ok s) →
      m' = m ∧ s = r := by
    intro r he
    obtain ⟨rfl, hr⟩ := Prod.mk.inj he
    exact ⟨rfl, (Except.ok.inj hr).symm⟩
  unfold curlOpenSocketCallback at h
  split at h
  · split at h
    · exact Or.inl (hbad h)
    · rename_i s'
      split at h
      · exact Or.inl (hbad h)
      · rename_i a o ha
        split at h
        · exact absurd (Prod.mk.inj h).2 (by simp)
        · rename_i m₁ he
          obtain ⟨rfl, hres⟩ := Prod.mk.inj h
          obtain rfl := Except.ok.inj hres
          obtain ⟨hfresh, hev, hsock, hsd, hlog⟩ := evictStale_ok he
          have hemp : m₁.emplaceSocket s' o
              = { m₁ with socketMap := m₁.socketMap.insert s' o } := by
            unfold emplaceSocket
            rw [hsock, if_pos rfl]
          rw [hemp]
          refine Or.inr ⟨rfl, a, o, ha, ?_, hev, ?_, hsd, m₁.log, hlog, rfl⟩
          · intro hnone
            rw [hfresh hnone]
            exact ⟨rfl, rfl⟩
          · intro j
            show (m₁.socketMap.insert s' o).lookup j = _
            rw [Table.lookup_insert_if, hsock]
            by_cases hj : j = s' <;> simp [hj]
  · exact Or.inl (hbad h)

/-! ### Mapped sockets are open -/

/-- A mapped socket object holds the number it is mapped under. -/
def Native (m : CurlMulti) : Prop :=
  ∀ ⦃s o⦄, m.socketMap.lookup s = some o → (m.asio.socks.cell o).native = some s

namespace Native

theorem of_eq (h : Native m) (hsock : m'.socketMap = m.socketMap)
    (hsocks : m'.asio.socks = m.asio.socks) : Native m' := by
  intro s o ho
  rw [hsock] at ho
  rw [hsocks]
  exact h ho

theorem still (h : Native m) (hs : Still m m') : Native m' := h.of_eq hs.socketMap hs.socks

/-- The entry of a number goes, and its object may give the number up. -/
theorem erase {s : Fd} {o : SockId} (h : Native m) (ht : Tracking m)
    (ho : m.socketMap.lookup s = some o) (hsock : m'.socketMap = m.socketMap.erase s)
    (hsocks : m'.asio.socks = m.asio.socks.modify o fun _ => .closed) : Native m' := by
  intro s' o' ho'
  rw [hsock] at ho'
  obtain ⟨hne, ho'⟩ := Table.lookup_erase_eq_some.mp ho'
  have hoo : o' ≠ o := fun he => hne (ht.sockInj (he ▸ ho') ho)
  rw [hsocks, Heap.modify_cell_ne _ _ hoo]
  exact h ho'

/-- A new object enters under the number it holds. -/
theorem insert {s : Fd} {sock : TcpSocket} (h : Native m) (ht : Tracking m)
    (hnat : sock.native = some s) (hsock : m'.socketMap = m.socketMap.insert s m.asio.socks.next)
    (hsocks : m'.asio.socks = m.asio.socks.alloc sock) : Native m' := by
  intro s' o' ho'
  rw [hsock] at ho'
  rw [hsocks]
  rcases Table.lookup_insert_eq_some.mp ho' with ⟨rfl, rfl⟩ | ⟨-, ho'⟩
  · rw [Heap.alloc_cell_next]
    exact hnat
  · rw [Heap.alloc_cell_lt _ _ (ht.sockLt ho')]
    exact h ho'

theorem removeSocket {s : Fd} {sd : SocketDataId} (h : Native m) (ht : Tracking m) :
    Native (m.removeSocket s sd).1 := by
  unfold CurlMulti.removeSocket
  split
  · exact h.of_eq rfl rfl
  · rename_i o ho
    split
    · split
      · exact h
      · rename_i a ha
        exact h.erase ht ho rfl (Asio.release_socks ha).1
    · exact h.of_eq rfl (Asio.cancel_socks ..).1

theorem addSocket {s : Fd} {refusal : Kernel.Refusal} (h : Native m) (ht : Tracking m) :
    Native (m.addSocket s refusal).1 := by
  unfold CurlMulti.addSocket
  split
  · exact h.of_eq rfl rfl
  · dsimp only
    split
    · have hprint : Native ({ m with
          socketData := m.socketData.alloc { isAresSocket := true } } : CurlMulti).printUnlessDetached :=
        (h.of_eq rfl rfl : Native { m with
          socketData := m.socketData.alloc { isAresSocket := true } }).still (.printUnlessDetached _)
      exact hprint.of_eq rfl rfl
    · rename_i a o ha
      obtain ⟨⟨sock, hnat, hsocks⟩, -⟩ := Asio.assignSocket_socks ha
      obtain ⟨rfl, -⟩ := Asio.assignSocket_spec ha
      exact h.insert ht hnat rfl hsocks

/-- `release()` does not throw on a stale entry, so the open callback does not either. -/
theorem curlOpenSocketCallback_cases (h : Native m) (ht : Tracking m) (purpose : SockType)
    (family : Family) (reply : Option Fd) :
    (m.curlOpenSocketCallback purpose family reply).1 = m ∨
      ∃ s a o, reply = some s ∧
        Opens m (m.curlOpenSocketCallback purpose family reply).1 s a o := by
  rcases hres : m.curlOpenSocketCallback purpose family reply with ⟨m', e | s⟩
  · -- an exception would have come from a stale entry that is not open
    exfalso
    unfold CurlMulti.curlOpenSocketCallback at hres
    split at hres
    · split at hres
      · exact absurd (Prod.mk.inj hres).2 (by simp)
      · rename_i s
        split at hres
        · exact absurd (Prod.mk.inj hres).2 (by simp)
        · rename_i a o ha
          split at hres
          · rename_i m₁ e' he
            unfold CurlMulti.evictStale at he
            split at he
            · simp at he
            · rename_i stale hstale
              obtain ⟨⟨sock, -, hsocks⟩, -⟩ := Asio.openSocket_socks ha
              have hnat : (a.socks.cell stale).native = some s := by
                rw [hsocks, Heap.alloc_cell_lt _ _ (ht.sockLt hstale)]
                exact h hstale
              have := Asio.release_isSome hnat
              split at he
              · rename_i hnone
                rw [hnone] at this
                simp at this
              · simp at he
          · exact absurd (Prod.mk.inj hres).2 (by simp)
    · exact absurd (Prod.mk.inj hres).2 (by simp)
  · rcases curlOpenSocketCallback_ok hres with ⟨rfl, -⟩ | ⟨hreply, a, o, hopens⟩
    · exact Or.inl rfl
    · exact Or.inr ⟨s, a, o, hreply, hopens⟩

theorem opens {s : Fd} {a : Asio} {o : SockId} (h : Native m) (ht : Tracking m)
    (ho : Opens m m' s a o) : Native m' := by
  obtain ⟨⟨sock, hnat, hsocks⟩, -⟩ := Asio.openSocket_socks ho.openSocket
  obtain ⟨rfl, -⟩ := Asio.openSocket_spec ho.openSocket
  -- what becomes of the objects: the stale one gives its number up
  have hcell : ∀ o', (∀ stale, m.socketMap.lookup s = some stale → o' ≠ stale) →
      m'.asio.socks.cell o' = a.socks.cell o' := by
    intro o' hne
    rcases hs : m.socketMap.lookup s with _ | stale
    · rw [(ho.fresh hs).1]
    · rw [(Asio.release_socks (ho.evicted stale hs).1).1, Heap.modify_cell_ne _ _ (hne stale hs)]
  intro j o' hj
  rw [ho.socketMap] at hj
  split at hj
  · rename_i he
    obtain rfl := Option.some.inj hj
    rw [hcell _ fun stale hs => Nat.ne_of_gt (ht.sockLt hs), hsocks, Heap.alloc_cell_next, he]
    exact hnat
  · rename_i hne
    have hstale : ∀ stale, m.socketMap.lookup s = some stale → o' ≠ stale :=
      fun stale hs he => hne (ht.sockInj hj (he ▸ hs))
    rw [hcell o' hstale, hsocks, Heap.alloc_cell_lt _ _ (ht.sockLt hj)]
    exact h hj

theorem curlCloseSocketCallback {s : Fd} (h : Native m) (ht : Tracking m) :
    Native (m.curlCloseSocketCallback s) := by
  unfold CurlMulti.curlCloseSocketCallback
  dsimp only
  split
  · exact h.of_eq rfl rfl
  · rename_i o ho
    refine h.erase ht ho rfl ?_
    show (m.destroySocket o).asio.socks = _
    rw [(Tracking.destroySocket_asio m o).1]
    exact (Asio.destroy_socks (h ho)).1

theorem curlSocketCallback {s : Fd} {what : CInt} {refusal : Kernel.Refusal} {oom : Option Dir}
    (h : Native m) (ht : Tracking m) :
    Native (m.curlSocketCallbackStatic s what refusal oom).1 := by
  have hcb : Native (m.curlSocketCallback s what refusal oom).1 := by
    unfold CurlMulti.curlSocketCallback
    split
    · split
      · exact h
      · exact h.removeSocket ht
    · dsimp only
      split
      · split
        · exact h
        · exact h.still .setSock
      · have hadd : Native (m.addSocket s refusal).1 := h.addSocket ht
        split
        · rename_i m₁ he
          rw [he] at hadd
          exact hadd
        · rename_i m₁ sd he
          rw [he] at hadd
          split
          · exact hadd
          · exact hadd.still .setSock
  unfold CurlMulti.curlSocketCallbackStatic
  split
  · rename_i m₁ u he
    rw [he] at hcb
    exact hcb
  · rename_i m₁ e he
    rw [he] at hcb
    exact hcb.still (.printUnlessDetached m₁)

theorem next {a : Action} (h : Native m) (ht : Tracking m) (hn : m.next a = some m') :
    Native m' := by
  by_cases ha : a.OnSocket
  · cases a <;> first | exact ha.elim | skip
    case socketCallback s what refusal oom =>
      obtain rfl := Option.some.inj hn
      exact h.curlSocketCallback ht
    case openSocketCallback purpose family reply =>
      simp only [CurlMulti.next] at hn
      split at hn
      · obtain rfl := Option.some.inj hn
        rcases h.curlOpenSocketCallback_cases ht purpose family reply with he | ⟨s, a, o, -, ho⟩
        · rw [he]
          exact h
        · exact h.opens ht ho
      · simp at hn
    case closeSocketCallback s =>
      obtain rfl := Option.some.inj hn
      exact h.curlCloseSocketCallback ht
    case foreignOpen s =>
      simp only [CurlMulti.next] at hn
      split at hn
      · obtain rfl := Option.some.inj hn
        exact h.of_eq rfl rfl
      · simp at hn
    case foreignClose s =>
      obtain rfl := Option.some.inj hn
      exact h.of_eq rfl rfl
  · exact h.still (next_still hn ha)

end Native

/-- A mapped socket is open in every state `CurlMulti` can reach. -/
theorem native {C : CurlMulti → Action → Prop} {tr : List Action} (h : machine.Run C tr m) :
    Native m :=
  h.invariant_of tracking (by intro s o ho; simp [machine, boot] at ho)
    fun _ _ _ ht hm _ hn => hm.next ht hn

end CurlMulti

end AmxxCurl
