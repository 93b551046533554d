/-
When a freshly opened socket can be watched.

The open callback opens the new socket first, which registers it with epoll, and
evicts a stale entry under the same number afterwards.  The eviction is a `release()`,
and `release()` deregisters with `EPOLL_CTL_DEL`, which is addressed by number: the
file the stale object was registered for is long closed, and what goes is the
registration of the new one.  A wait armed on that socket never completes.

So the new socket is watchable exactly when there was nothing to take back: no stale
entry, or one whose own registration the kernel had refused.
-/
import AmxxCurl.Multi.Sockets

namespace AmxxCurl

namespace CurlMulti

variable {m m' : CurlMulti} {tr : List Action} {s : Fd}

/-- The epoll set has `s` registered with the descriptor state of its socket object. -/
def Watchable (m : CurlMulti) (s : Fd) : Prop :=
  ∃ o d, m.socketMap.lookup s = some o ∧ (m.asio.socks.cell o).desc = some d ∧
    m.asio.kernel.interest.lookup s = some d

/-- `socket_map_` has a stale entry under `s` whose descriptor state counts as registered. -/
def StaleRegistered (m : CurlMulti) (s : Fd) : Prop :=
  ∃ stale, m.socketMap.lookup s = some stale ∧ m.asio.Registered stale

/-- **A socket the open callback returns is watchable iff no stale entry that counts as
registered was evicted for it.** -/
theorem opened_watchable_iff {purpose : SockType} {family : Family} {reply : Option Fd}
    (h : machine.Run Machine.Free tr m)
    (hfree : ∀ s, reply = some s → m.asio.kernel.files.lookup s = none)
    (hopen : m.curlOpenSocketCallback purpose family reply = (m', .ok s))
    (hs : s ≠ curlSocketBad) : Watchable m' s ↔ ¬StaleRegistered m s := by
  obtain ⟨hreply, a, o, ho⟩ := (curlOpenSocketCallback_ok hopen).resolve_left fun hc => hs hc.2
  obtain ⟨hdescs, hsocks, hinterest⟩ :=
    Asio.openSocket_registers (hfree s hreply) ho.openSocket
  obtain ⟨rfl, -⟩ := Asio.openSocket_spec ho.openSocket
  have hmapped : m'.socketMap.lookup s = some m.asio.socks.next := by
    rw [ho.socketMap, if_pos rfl]
  rcases hstale : m.socketMap.lookup s with _ | stale
  · -- nothing is evicted
    refine iff_of_true ⟨m.asio.socks.next, m.asio.descs.next, hmapped, ?_, ?_⟩ ?_
    · rw [(ho.fresh hstale).1, hsocks, Heap.alloc_cell_next]
    · rw [(ho.fresh hstale).1, hinterest, Finmap.lookup_insert]
    · rintro ⟨stale, hst, -⟩
      rw [hstale] at hst
      simp at hst
  · obtain ⟨hrelease, -⟩ := ho.evicted stale hstale
    have hlt := (tracking h).sockLt hstale
    have hcell : a.socks.cell stale = m.asio.socks.cell stale := by
      rw [hsocks, Heap.alloc_cell_lt _ _ hlt]
    have hnat : (a.socks.cell stale).native = some s := by
      rw [hcell]
      exact native h hstale
    -- opening has not touched the stale object's descriptor state
    have hreg : a.Registered stale ↔ m.asio.Registered stale := by
      unfold Asio.Registered
      rw [hcell, hdescs]
      refine exists_congr fun d => and_congr_right fun hd => ?_
      rw [Heap.alloc_cell_lt _ _ (m.asio.desc_lt stale d hd)]
    have hiff : StaleRegistered m s ↔ m.asio.Registered stale := by
      refine ⟨?_, fun hr => ⟨stale, hstale, hr⟩⟩
      rintro ⟨stale', hst, hr⟩
      obtain rfl := Option.some.inj (hstale.symm.trans hst)
      exact hr
    obtain ⟨hdel, hkeep⟩ := Asio.release_interest hrelease hnat
    rw [hiff]
    constructor
    · rintro ⟨o, d, -, -, hd⟩ hr
      rw [hdel (hreg.mpr hr), Finmap.lookup_erase] at hd
      simp at hd
    · intro hr
      refine ⟨m.asio.socks.next, m.asio.descs.next, hmapped, ?_, ?_⟩
      · rw [(Asio.release_socks hrelease).1, Heap.modify_cell_ne _ _ (Nat.ne_of_gt hlt), hsocks,
          Heap.alloc_cell_next]
      · rw [hkeep fun hc => hr (hreg.mp hc), hinterest, Finmap.lookup_insert]

/-- c-ares opens a socket, libcurl has it watched, c-ares closes it. -/
def aresClosed : List Action :=
  [.foreignOpen 6, .socketCallback 6 CURL_POLL_IN .none none, .foreignClose 6]

/-- The entry of its number is still in `socket_map_`. -/
def stale : CurlMulti := (machine.exec Machine.Free boot aresClosed).get (by decide)

theorem opened_watchable_iff_stale :
    Watchable (stale.curlOpenSocketCallback .ipcxn .inet (some 6)).1 6
      ↔ ¬StaleRegistered stale 6 := by
  have hopened : stale.curlOpenSocketCallback .ipcxn .inet (some 6)
      = ((stale.curlOpenSocketCallback .ipcxn .inet (some 6)).1, .ok 6) := rfl
  have hgone : ∀ s', some (6 : Fd) = some s' → stale.asio.kernel.files.lookup s' = none :=
    fun _ hs => Option.some.inj hs ▸ (by decide : stale.asio.kernel.files.lookup 6 = none)
  exact opened_watchable_iff (Machine.run_of_exec (Option.some_get _).symm) hgone hopened
    (by decide)

/-- The number comes back for a connection of libcurl's, which nobody will be told about. -/
theorem opened_unwatchable : machine.Run Machine.Free aresClosed stale ∧
    stale.asio.kernel.files.lookup 6 = none ∧
    (stale.curlOpenSocketCallback .ipcxn .inet (some 6)).2 = .ok 6 ∧
    ¬Watchable (stale.curlOpenSocketCallback .ipcxn .inet (some 6)).1 6 := by
  refine ⟨Machine.run_of_exec (Option.some_get _).symm, by decide, rfl, ?_⟩
  have hgone : (stale.curlOpenSocketCallback .ipcxn .inet (some 6)).1.asio.kernel.interest.lookup 6
      = none := by decide
  rintro ⟨o, d, -, -, hd⟩
  rw [hgone] at hd
  simp at hd

end CurlMulti

end AmxxCurl
