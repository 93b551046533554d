/-
The two socket maps.

Five branches write them, each on its own: the open callback and the eviction in it, the
close callback, REMOVE for a socket of ours and for one of c-ares, and the first request
for a number, which wraps it where no socket is known.  `MapStep` says once what a step can
do to them; that they stay consistent is then read off case by case.

Who made a socket object is noted by a monitor, `makers`: the open callback makes one for a
file it has opened, `WrapTcpSocket` one around a number somebody else owns.
-/
import AmxxCurl.Multi.Arming

namespace AmxxCurl

namespace CurlMulti

/-- What a step does to `socket_map_` and `socket_data_map_`. -/
inductive MapStep (m : CurlMulti) : Action → CurlMulti → Prop
  /-- Nothing: also a request for a tracked number, and a wrap that fails. -/
  | keep {a m'} (hsock : m'.socketMap = m.socketMap) (hdata : m'.socketDataMap = m.socketDataMap)
      (hremoved : (∀ w, a ≠ .dispatch w) → m'.removedSockets = m.removedSockets) : MapStep m a m'
  /-- REMOVE of a socket of ours: it stays in `socket_map_`. -/
  | remove {s refusal oom m' sd o} (htracked : m.socketDataMap.lookup s = some sd)
      (ho : m.socketMap.lookup s = some o) (hares : (m.data sd).isAresSocket = false)
      (hsock : m'.socketMap = m.socketMap) (hdata : m'.socketDataMap = m.socketDataMap.erase s)
      (hremoved : m'.removedSockets = insert s m.removedSockets) :
      MapStep m (.socketCallback s CURL_POLL_REMOVE refusal oom) m'
  /-- REMOVE of a socket of c-ares. -/
  | release {s refusal oom m' sd o} (htracked : m.socketDataMap.lookup s = some sd)
      (ho : m.socketMap.lookup s = some o) (hsock : m'.socketMap = m.socketMap.erase s)
      (hdata : m'.socketDataMap = m.socketDataMap.erase s)
      (hremoved : m'.removedSockets = insert s m.removedSockets) :
      MapStep m (.socketCallback s CURL_POLL_REMOVE refusal oom) m'
  /-- The first request for a socket that is known. -/
  | track {s what refusal oom m' o} (hnew : m.socketDataMap.lookup s = none)
      (ho : m.socketMap.lookup s = some o) (hsock : m'.socketMap = m.socketMap)
      (hdata : m'.socketDataMap = m.socketDataMap.insert s m.socketData.next)
      (hares : (m'.data m.socketData.next).isAresSocket = false)
      (hremoved : m'.removedSockets = m.removedSockets) :
      MapStep m (.socketCallback s what refusal oom) m'
  /-- The first request for a number without one. -/
  | wrap {s what refusal oom m'} (hnew : m.socketDataMap.lookup s = none)
      (hno : m.socketMap.lookup s = none)
      (hsock : m'.socketMap = m.socketMap.insert s m.asio.socks.next)
      (hdata : m'.socketDataMap = m.socketDataMap.insert s m.socketData.next)
      (hares : (m'.data m.socketData.next).isAresSocket = true)
      (hnext : m.asio.socks.next < m'.asio.socks.next)
      (hremoved : m'.removedSockets = m.removedSockets) :
      MapStep m (.socketCallback s what refusal oom) m'
  | close {s m'} (hsock : ∀ j, m'.socketMap.lookup j = if j = s then none else m.socketMap.lookup j)
      (hdata : m'.socketDataMap = m.socketDataMap.erase s)
      (hremoved : m'.removedSockets = m.removedSockets) : MapStep m (.closeSocketCallback s) m'
  /-- A socket is opened; a stale entry of its number has been evicted. -/
  | opens {s purpose family m'}
      (hsock : ∀ j, m'.socketMap.lookup j =
        if j = s then some m.asio.socks.next else m.socketMap.lookup j)
      (hdata : m'.socketDataMap = m.socketDataMap.erase s)
      (hnext : m.asio.socks.next < m'.asio.socks.next)
      (hremoved : m'.removedSockets = m.removedSockets) :
      MapStep m (.openSocketCallback purpose family (some s)) m'

variable {m m' : CurlMulti} {a : Action} {tr : List Action}

/-! ### Every step is one of these -/

/-- What is asked of a tracked socket changes neither map. -/
theorem setSock_same (m : CurlMulti) (act : CInt) (s : Fd) (sd : SocketDataId)
    (oom : Option Dir) :
    (m.setSock act s sd oom).1.socketMap = m.socketMap ∧
      (m.setSock act s sd oom).1.socketDataMap = m.socketDataMap ∧
      (m.setSock act s sd oom).1.asio.socks = m.asio.socks ∧
      ∀ sd', ((m.setSock act s sd oom).1.data sd').isAresSocket = (m.data sd').isAresSocket := by
  have hstill : Still m (m.setSock act s sd oom).1 := .setSock
  exact ⟨hstill.socketMap, hstill.socketDataMap, hstill.socks, hstill.ares⟩

theorem armWaits_removed (m : CurlMulti) (act : CInt) (s : Fd) (sd : SocketDataId) (o : SockId)
    (oom : Option Dir) : (m.armWaits act s sd o oom).1.removedSockets = m.removedSockets := by
  have hdir : ∀ (m₁ : CurlMulti) (dir : Dir),
      (m₁.armDir act s sd o oom dir).1.removedSockets = m₁.removedSockets := by
    intro m₁ dir
    unfold armDir
    split
    · split <;> rfl
    · rfl
  have hin := hdir m .pollIn
  unfold armWaits
  split
  · rename_i m₁ e he
    rw [he] at hin
    exact hin
  · rename_i m₁ he
    rw [he] at hin
    exact (hdir m₁ .pollOut).trans hin

theorem setSock_removed (m : CurlMulti) (act : CInt) (s : Fd) (sd : SocketDataId)
    (oom : Option Dir) : (m.setSock act s sd oom).1.removedSockets = m.removedSockets := by
  rcases m.setSock_call act s sd oom with ⟨-, hset⟩ | ⟨c, -, hstate, -, -, -, -, hset⟩
  · rw [hset]
  · have hafter : c.after.removedSockets = m.removedSockets := by
      rw [← hstate]
      exact armWaits_removed ..
    rcases hset with ⟨e, hset⟩ | hset <;> rw [hset] <;> exact hafter

theorem static_removed (m : CurlMulti) (s : Fd) (what : CInt) (refusal : Kernel.Refusal)
    (oom : Option Dir) :
    (m.curlSocketCallbackStatic s what refusal oom).1.removedSockets =
      (m.curlSocketCallback s what refusal oom).1.removedSockets := by
  unfold curlSocketCallbackStatic
  split
  · rename_i m₁ he
    rw [he]
  · rename_i m₁ e he
    rw [he]
    exact (Apart.printUnlessDetached m₁).removedSockets

theorem remove_mapStep {s : Fd} {refusal : Kernel.Refusal} {oom : Option Dir} (hnat : Native m)
    (ht : Tracking m) : MapStep m (.socketCallback s CURL_POLL_REMOVE refusal oom)
      (m.curlSocketCallbackStatic s CURL_POLL_REMOVE refusal oom).1 := by
  obtain ⟨-, hsock, hdata, -⟩ := m.static_same s CURL_POLL_REMOVE refusal oom
  have hremoved := m.static_removed s CURL_POLL_REMOVE refusal oom
  unfold curlSocketCallback at hsock hdata hremoved
  rw [if_pos rfl] at hsock hdata hremoved
  cases hs : m.socketDataMap.lookup s with
  | none =>
      rw [hs] at hsock hdata hremoved
      exact .keep hsock hdata fun _ => hremoved
  | some sd =>
      rw [hs] at hsock hdata hremoved
      dsimp only at hsock hdata hremoved
      obtain ⟨o, ho⟩ := ht.dataSock hs
      unfold removeSocket at hsock hdata hremoved
      rw [ho] at hsock hdata hremoved
      dsimp only at hsock hdata hremoved
      cases hares : (m.socketData.cell sd).isAresSocket with
      | false =>
          rw [hares, if_neg Bool.false_ne_true] at hsock hdata hremoved
          exact .remove hs ho hares hsock hdata hremoved
      | true =>
          rw [hares, if_pos rfl] at hsock hdata hremoved
          obtain ⟨asio, hrelease⟩ := Option.isSome_iff_exists.mp (Asio.release_isSome (hnat ho))
          rw [hrelease] at hsock hdata hremoved
          exact .release hs ho hsock hdata hremoved

/-- What `requested` has tracked. -/
theorem request_mapStep {s : Fd} {what : CInt} {refusal : Kernel.Refusal} {oom : Option Dir}
    (hwhat : what ≠ CURL_POLL_REMOVE) : MapStep m (.socketCallback s what refusal oom)
      (m.curlSocketCallbackStatic s what refusal oom).1 := by
  obtain ⟨hasio, hsock, hdata, hsd⟩ := m.static_same s what refusal oom
  have hremoved := m.static_removed s what refusal oom
  -- after the number has been looked up, the maps stay as they are
  have hrest : ∀ {m₁ : CurlMulti} {r : Option SocketDataId}, m.requested s refusal = (m₁, r) →
      (m.curlSocketCallback s what refusal oom).1.socketMap = m₁.socketMap ∧
      (m.curlSocketCallback s what refusal oom).1.socketDataMap = m₁.socketDataMap ∧
      (m.curlSocketCallback s what refusal oom).1.asio.socks = m₁.asio.socks ∧
      (m.curlSocketCallback s what refusal oom).1.removedSockets = m₁.removedSockets ∧
      ∀ sd, ((m.curlSocketCallback s what refusal oom).1.data sd).isAresSocket =
        (m₁.data sd).isAresSocket := by
    intro m₁ r hr
    cases r with
    | none =>
        rw [request_none hwhat (by rw [hr]), hr]
        exact ⟨rfl, rfl, rfl, rfl, fun _ => rfl⟩
    | some sd =>
        rw [request_some oom hwhat (show (m.requested s refusal).2 = some sd by rw [hr]), hr]
        split
        · exact ⟨rfl, rfl, rfl, rfl, fun _ => rfl⟩
        · obtain ⟨h₁, h₂, h₃, h₄⟩ := m₁.setSock_same what s sd oom
          exact ⟨h₁, h₂, h₃, m₁.setSock_removed what s sd oom, h₄⟩
  have hdone : ∀ {m₁ : CurlMulti} {r : Option SocketDataId}, m.requested s refusal = (m₁, r) →
      (m.curlSocketCallbackStatic s what refusal oom).1.socketMap = m₁.socketMap ∧
      (m.curlSocketCallbackStatic s what refusal oom).1.socketDataMap = m₁.socketDataMap ∧
      (m.curlSocketCallbackStatic s what refusal oom).1.asio.socks = m₁.asio.socks ∧
      (m.curlSocketCallbackStatic s what refusal oom).1.removedSockets = m₁.removedSockets ∧
      ∀ sd, ((m.curlSocketCallbackStatic s what refusal oom).1.data sd).isAresSocket =
        (m₁.data sd).isAresSocket := by
    intro m₁ r hr
    obtain ⟨h₁, h₂, h₃, h₄, h₅⟩ := hrest hr
    refine ⟨hsock.trans h₁, hdata.trans h₂, by rw [hasio, h₃], hremoved.trans h₄, fun sd => ?_⟩
    rw [data, hsd]
    exact h₅ sd
  cases hs : m.socketDataMap.lookup s with
  | some sd =>
      have hr : m.requested s refusal = (m, some sd) := by
        unfold requested
        rw [hs]
      obtain ⟨h₁, h₂, -, h₄, -⟩ := hdone hr
      exact .keep h₁ h₂ fun _ => h₄
  | none =>
      have hr : m.requested s refusal = m.addSocket s refusal := by
        unfold requested
        rw [hs]
      unfold addSocket at hr
      cases ho : m.socketMap.lookup s with
      | some o =>
          rw [ho] at hr
          obtain ⟨h₁, h₂, -, h₄, h₅⟩ := hdone hr
          refine .track hs ho h₁ h₂ ((h₅ _).trans ?_) h₄
          show ((m.socketData.alloc {}).cell m.socketData.next).isAresSocket = false
          rw [Heap.alloc_cell_next]
      | none =>
          rw [ho] at hr
          dsimp only at hr
          cases hassign : m.asio.assignSocket s refusal with
          | none =>
              rw [hassign] at hr
              obtain ⟨h₁, h₂, -, h₄, -⟩ := hdone hr
              have hprint := Apart.printUnlessDetached
                { m with socketData := m.socketData.alloc { isAresSocket := true } }
              exact .keep (h₁.trans hprint.socketMap) (h₂.trans hprint.socketDataMap) fun _ =>
                h₄.trans hprint.removedSockets
          | some x =>
              obtain ⟨asio, o⟩ := x
              rw [hassign] at hr
              obtain ⟨h₁, h₂, h₃, h₄, h₅⟩ := hdone hr
              obtain ⟨rfl, hnext, -⟩ := Asio.assignSocket_spec hassign
              refine .wrap hs ho h₁ h₂ ((h₅ _).trans ?_) ?_ h₄
              · show ((m.socketData.alloc { isAresSocket := true }).cell
                  m.socketData.next).isAresSocket = true
                rw [Heap.alloc_cell_next]
              · rw [h₃]
                exact Nat.lt_of_lt_of_eq (Nat.lt_succ_self _) hnext.symm

theorem close_mapStep {s : Fd} :
    MapStep m (.closeSocketCallback s) (m.curlCloseSocketCallback s) := by
  unfold curlCloseSocketCallback
  dsimp only
  split
  · rename_i ho
    refine .close (fun j => ?_) rfl rfl
    by_cases hj : j = s
    · rw [if_pos hj, hj]
      exact ho
    · rw [if_neg hj]
  · rename_i o ho
    obtain ⟨-, -, hdata, -, -, hremoved⟩ := Tracking.destroySocket_asio m o
    refine .close (fun j => Table.lookup_erase_if ..) ?_ hremoved
    show (m.destroySocket o).socketDataMap.erase s = _
    rw [hdata]

theorem evictStale_removed {s : Fd} {o : SockId} :
    (m.evictStale s o).1.removedSockets = m.removedSockets := by
  unfold evictStale
  split
  · rfl
  · split
    · exact (Tracking.destroySocket_asio m o).2.2.2.2.2
    · exact (Apart.printUnlessDetached _).removedSockets

theorem open_removed {purpose : SockType} {family : Family} {reply : Option Fd} :
    (m.curlOpenSocketCallback purpose family reply).1.removedSockets = m.removedSockets := by
  unfold curlOpenSocketCallback
  split
  · split
    · rfl
    · rename_i s
      split
      · rfl
      · rename_i asio o ha
        have hevict := evictStale_removed (m := { m with asio := asio }) (s := s) (o := o)
        split
        · rename_i m₁ e he
          rw [he] at hevict
          exact hevict
        · rename_i m₁ he
          rw [he] at hevict
          show (m₁.emplaceSocket s o).removedSockets = _
          unfold emplaceSocket
          split
          · exact (Tracking.destroySocket_asio m₁ o).2.2.2.2.2.trans hevict
          · exact hevict
  · rfl

/-- An open without an eviction finds no `SocketData` under its number. -/
theorem opens_mapStep {purpose : SockType} {family : Family} {s : Fd} {asio : Asio} {o : SockId}
    (ht : Tracking m) (ho : Opens m m' s asio o) (hremoved : m'.removedSockets = m.removedSockets) :
    MapStep m (.openSocketCallback purpose family (some s)) m' := by
  obtain ⟨rfl, hnext, -⟩ := Asio.openSocket_spec ho.openSocket
  have hdata : m'.socketDataMap = m.socketDataMap.erase s ∧ m'.asio.socks.next = asio.socks.next := by
    cases hs : m.socketMap.lookup s with
    | none =>
        obtain ⟨hasio, hdata⟩ := ho.fresh hs
        have hnone : m.socketDataMap.lookup s = none := by
          cases hd : m.socketDataMap.lookup s with
          | none => rfl
          | some sd =>
              obtain ⟨o, ho'⟩ := ht.dataSock hd
              rw [hs] at ho'
              simp at ho'
        exact ⟨hdata.trans (Table.erase_none hnone).symm, by rw [hasio]⟩
    | some stale =>
        obtain ⟨hrelease, hdata⟩ := ho.evicted stale hs
        exact ⟨hdata, (Asio.cancels_release hrelease).socks_next⟩
  refine .opens ho.socketMap hdata.1 ?_ hremoved
  rw [hdata.2]
  exact Nat.lt_of_lt_of_eq (Nat.lt_succ_self _) hnext.symm

theorem rearm_removed {s : Fd} {sd : SocketDataId} {error : Bool} {oom : Option Dir} :
    (m.rearm s sd error oom).1.removedSockets = m.removedSockets := by
  have htimer : (if m.runningHandles ≤ 0 then m.cancelTimer else m).removedSockets =
      m.removedSockets := by
    split <;> rfl
  rcases m.rearm_call s sd error oom with ⟨-, hrearm⟩ | ⟨c, -, hstate, -, -, -, -, -, -, -, hrearm⟩
  · rw [hrearm]
    exact htimer
  · rw [hrearm, ← htimer, ← hstate]
    exact armWaits_removed ..

/-- `removed_sockets_` is written by the socket callback, and cleared by a handler. -/
theorem next_removed (hn : m.next a = some m') (hdispatch : ∀ w, a ≠ .dispatch w)
    (hcallback : ∀ s what refusal oom, a ≠ .socketCallback s what refusal oom) :
    m'.removedSockets = m.removedSockets := by
  cases next_fires hn with
  | socketCallback s what refusal oom => exact absurd rfl (hcallback s what refusal oom)
  | dispatch w r hidle hst => exact absurd rfl (hdispatch w)
  | openSocketCallback purpose family reply hfree => exact open_removed
  | closeSocketCallback s =>
      unfold curlCloseSocketCallback
      dsimp only
      split
      · rfl
      · exact (Tracking.destroySocket_asio m _).2.2.2.2.2
  | complete w r asio ha => rfl
  | socketReturn oom dir s sd error hh => exact (Apart.pollCatch _).removedSockets.trans rearm_removed
  | timerReturn oom hh => rfl
  | foreignOpen s hfree => rfl
  | foreignClose s => rfl
  | _ => exact (next_apart hn not_false).removedSockets

/-- **Every step does one of these things to the maps.** -/
theorem next_mapStep (hnat : Native m) (ht : Tracking m) (hn : m.next a = some m') :
    MapStep m a m' := by
  by_cases ha : a.OnSocket
  · cases next_fires hn with
    | socketCallback s what refusal oom =>
        by_cases hwhat : what = CURL_POLL_REMOVE
        · subst hwhat
          exact remove_mapStep hnat ht
        · exact request_mapStep hwhat
    | openSocketCallback purpose family reply hfree =>
        rcases hnat.curlOpenSocketCallback_cases ht purpose family reply with
          he | ⟨s, asio, o, rfl, ho⟩
        · rw [he]
          exact .keep rfl rfl fun _ => rfl
        · exact opens_mapStep ht ho open_removed
    | closeSocketCallback s => exact close_mapStep
    | foreignOpen s hfree => exact .keep rfl rfl fun _ => rfl
    | foreignClose s => exact .keep rfl rfl fun _ => rfl
    | _ => exact ha.elim
  · have hstill := next_still hn ha
    refine .keep hstill.socketMap hstill.socketDataMap fun hdispatch => ?_
    refine next_removed hn hdispatch fun s what refusal oom he => ha ?_
    rw [he]
    trivial

/-! ### `is_ares_socket` -/

/-- A new `SocketData` may come; the ones there keep their mark. -/
def SameMarks (m m' : CurlMulti) : Prop :=
  ∀ sd, sd < m.socketData.next → (m'.data sd).isAresSocket = (m.data sd).isAresSocket

theorem SameMarks.of_eq (h : m'.socketData = m.socketData) : SameMarks m m' := by
  intro sd _
  rw [data, h]

theorem addSocket_marks (m : CurlMulti) (s : Fd) (refusal : Kernel.Refusal) :
    SameMarks m (m.addSocket s refusal).1 := by
  have halloc : ∀ (d : SocketData) (sd : SocketDataId), sd < m.socketData.next →
      ((m.socketData.alloc d).cell sd).isAresSocket = (m.data sd).isAresSocket := by
    intro d sd hlt
    rw [Heap.alloc_cell_lt _ _ hlt]
  unfold addSocket
  split
  · exact halloc _
  · dsimp only
    split
    · intro sd hlt
      have hprint := (Apart.printUnlessDetached
        { m with socketData := m.socketData.alloc { isAresSocket := true } }).socketData
      show ((_ : CurlMulti).printUnlessDetached.socketData.cell sd).isAresSocket = _
      rw [hprint]
      exact halloc _ sd hlt
    · exact halloc _

theorem socketCallback_marks (m : CurlMulti) (s : Fd) (what : CInt) (refusal : Kernel.Refusal)
    (oom : Option Dir) : SameMarks m (m.curlSocketCallbackStatic s what refusal oom).1 := by
  obtain ⟨-, -, -, hsd⟩ :=
    m.static_same s what refusal oom
  intro sd hlt
  rw [data, hsd]
  by_cases hwhat : what = CURL_POLL_REMOVE
  · unfold curlSocketCallback
    rw [if_pos hwhat]
    split
    · rfl
    · unfold removeSocket
      dsimp only
      repeat' split
      all_goals rfl
  · have hrequested : SameMarks m (m.requested s refusal).1 := by
      unfold requested
      split
      · exact .of_eq rfl
      · exact m.addSocket_marks s refusal
    cases hr : (m.requested s refusal).2 with
    | none =>
        rw [request_none hwhat hr]
        exact hrequested sd hlt
    | some sd' =>
        rw [request_some oom hwhat hr]
        split
        · exact hrequested sd hlt
        · exact ((CurlMulti.setSock_same ..).2.2.2 sd).trans (hrequested sd hlt)

theorem open_socketData {purpose : SockType} {family : Family} {reply : Option Fd} :
    (m.curlOpenSocketCallback purpose family reply).1.socketData = m.socketData := by
  have hdestroy : ∀ (m₁ : CurlMulti) (o : SockId),
      (m₁.destroySocket o).socketData = m₁.socketData :=
    fun m₁ o => (Tracking.destroySocket_asio m₁ o).2.2.2.1
  have hevict : ∀ (m₁ : CurlMulti) (s : Fd) (o : SockId),
      (m₁.evictStale s o).1.socketData = m₁.socketData := by
    intro m₁ s o
    unfold evictStale
    split
    · rfl
    · split
      · exact hdestroy m₁ o
      · exact (Apart.printUnlessDetached _).socketData
  unfold curlOpenSocketCallback
  split
  · split
    · rfl
    · rename_i s
      split
      · rfl
      · rename_i asio o ha
        have hev := hevict { m with asio := asio } s o
        split
        · rename_i m₁ e he
          rw [he] at hev
          exact hev
        · rename_i m₁ he
          rw [he] at hev
          show (m₁.emplaceSocket s o).socketData = _
          unfold emplaceSocket
          split
          · exact (hdestroy m₁ o).trans hev
          · exact hev
  · rfl

theorem close_socketData {s : Fd} : (m.curlCloseSocketCallback s).socketData = m.socketData := by
  unfold curlCloseSocketCallback
  dsimp only
  split
  · rfl
  · exact (Tracking.destroySocket_asio m _).2.2.2.1

theorem next_marks (hn : m.next a = some m') : SameMarks m m' := by
  by_cases ha : a.OnSocket
  · cases next_fires hn with
    | socketCallback s what refusal oom => exact m.socketCallback_marks s what refusal oom
    | openSocketCallback purpose family reply hfree => exact .of_eq open_socketData
    | closeSocketCallback s => exact .of_eq close_socketData
    | foreignOpen s hfree => exact .of_eq rfl
    | foreignClose s => exact .of_eq rfl
    | _ => exact ha.elim
  · exact fun sd _ => (next_still hn ha).ares sd

/-! ### The maps are consistent -/

/-- Who makes socket objects. -/
inductive Maker
  | curlOpenSocketCallback
  | wrapTcpSocket
  deriving DecidableEq

/-- Who makes the socket object that an action makes. -/
def Action.maker : Action → Option Maker
  | .openSocketCallback .. => some .curlOpenSocketCallback
  | .socketCallback .. => some .wrapTcpSocket
  | _ => none

/-- The maker of each socket object. -/
def makers (tr : List Action) : SockId → Option Maker :=
  machine.observe (fun made m a m' =>
    if m.asio.socks.next < m'.asio.socks.next then
      Function.update made m.asio.socks.next a.maker
    else made) (fun _ => none) boot tr

/-- Who made the sockets in `socket_map_`. -/
structure Made (made : SockId → Option Maker) (m : CurlMulti) : Prop where
  tracked : ∀ {s sd o}, m.socketDataMap.lookup s = some sd → m.socketMap.lookup s = some o →
    made o = some (if (m.data sd).isAresSocket then .wrapTcpSocket else .curlOpenSocketCallback)
  /-- c-ares's leave the map with their `SocketData`. -/
  untracked : ∀ {s o}, m.socketDataMap.lookup s = none → m.socketMap.lookup s = some o →
    made o = some .curlOpenSocketCallback

/-- The entries there are keep their makers through a step. -/
structure KeepsMakers (made : SockId → Option Maker) (m m' : CurlMulti) : Prop where
  tracked : ∀ {s sd o}, m.socketDataMap.lookup s = some sd → m.socketMap.lookup s = some o →
    made o = some (if (m'.data sd).isAresSocket then .wrapTcpSocket else .curlOpenSocketCallback)
  untracked : ∀ {s o}, m.socketDataMap.lookup s = none → m.socketMap.lookup s = some o →
    made o = some .curlOpenSocketCallback

/-- The object a step makes was in no map. -/
theorem Made.keeps {made : SockId → Option Maker} {k : Option Maker} (h : Made made m)
    (ht : Tracking m) (hn : m.next a = some m') :
    KeepsMakers (if m.asio.socks.next < m'.asio.socks.next then
      Function.update made m.asio.socks.next k else made) m m' := by
  have hold : ∀ {s o}, m.socketMap.lookup s = some o →
      (if m.asio.socks.next < m'.asio.socks.next then
        Function.update made m.asio.socks.next k else made) o = made o := by
    intro s o ho
    split
    · exact Function.update_of_ne (Nat.ne_of_lt (ht.sockLt ho)) ..
    · rfl
  refine ⟨fun {s sd o} hs ho => ?_, fun {s o} hs ho => ?_⟩
  · rw [hold ho, next_marks hn sd (ht.dataLt hs)]
    exact h.tracked hs ho
  · rw [hold ho]
    exact h.untracked hs ho

namespace KeepsMakers

variable {made : SockId → Option Maker} {s : Fd}

theorem same (h : KeepsMakers made m m') (hsock : m'.socketMap = m.socketMap)
    (hdata : m'.socketDataMap = m.socketDataMap) : Made made m' :=
  ⟨fun hs ho => h.tracked (hdata ▸ hs) (hsock ▸ ho),
    fun hs ho => h.untracked (hdata ▸ hs) (hsock ▸ ho)⟩

/-- The one that loses its `SocketData` is not c-ares's. -/
theorem remove {sd : SocketDataId} {o : SockId} (h : KeepsMakers made m m')
    (hs₀ : m.socketDataMap.lookup s = some sd) (ho₀ : m.socketMap.lookup s = some o)
    (hares : (m'.data sd).isAresSocket = false) (hsock : m'.socketMap = m.socketMap)
    (hdata : m'.socketDataMap = m.socketDataMap.erase s) : Made made m' := by
  refine ⟨fun {s' sd' o'} hs ho => ?_, fun {s' o'} hs ho => ?_⟩
  · rw [hdata] at hs
    exact h.tracked (Table.lookup_erase_eq_some.mp hs).2 (hsock ▸ ho)
  · rw [hdata, Table.lookup_erase_if] at hs
    rw [hsock] at ho
    by_cases hs' : s' = s
    · subst hs'
      obtain rfl := Option.some.inj (ho₀.symm.trans ho)
      rw [h.tracked hs₀ ho, if_neg (by rw [hares]; exact Bool.false_ne_true)]
    · rw [if_neg hs'] at hs
      exact h.untracked hs ho

theorem release (h : KeepsMakers made m m') (hsock : m'.socketMap = m.socketMap.erase s)
    (hdata : m'.socketDataMap = m.socketDataMap.erase s) : Made made m' := by
  refine ⟨fun hs ho => ?_, fun {s' o'} hs ho => ?_⟩
  · rw [hdata] at hs
    rw [hsock] at ho
    exact h.tracked (Table.lookup_erase_eq_some.mp hs).2 (Table.lookup_erase_eq_some.mp ho).2
  · rw [hsock] at ho
    obtain ⟨hne, ho⟩ := Table.lookup_erase_eq_some.mp ho
    rw [hdata, Table.lookup_erase_if, if_neg hne] at hs
    exact h.untracked hs ho

/-- A socket without a `SocketData` is one of ours. -/
theorem track {sd : SocketDataId} (h : KeepsMakers made m m')
    (hfree : m.socketDataMap.lookup s = none) (hsock : m'.socketMap = m.socketMap)
    (hdata : m'.socketDataMap = m.socketDataMap.insert s sd)
    (hares : (m'.data sd).isAresSocket = false) : Made made m' := by
  refine ⟨fun {s' sd' o'} hs ho => ?_, fun {s' o'} hs ho => ?_⟩
  · rw [hdata] at hs
    rw [hsock] at ho
    rcases Table.lookup_insert_eq_some.mp hs with ⟨rfl, rfl⟩ | ⟨-, hs⟩
    · rw [h.untracked hfree ho, hares, if_neg Bool.false_ne_true]
    · exact h.tracked hs ho
  · rw [hdata, Table.lookup_insert_if] at hs
    by_cases hs' : s' = s
    · rw [if_pos hs'] at hs
      simp at hs
    · rw [if_neg hs'] at hs
      exact h.untracked hs (hsock ▸ ho)

theorem wrap {sd : SocketDataId} {o : SockId} (h : KeepsMakers made m m')
    (hmade : made o = some .wrapTcpSocket) (hsock : m'.socketMap = m.socketMap.insert s o)
    (hdata : m'.socketDataMap = m.socketDataMap.insert s sd)
    (hares : (m'.data sd).isAresSocket = true) : Made made m' := by
  refine ⟨fun {s' sd' o'} hs ho => ?_, fun {s' o'} hs ho => ?_⟩
  · rw [hdata] at hs
    rw [hsock] at ho
    rcases Table.lookup_insert_eq_some.mp hs with ⟨rfl, rfl⟩ | ⟨hne, hs⟩
    · rcases Table.lookup_insert_eq_some.mp ho with ⟨-, rfl⟩ | ⟨hne, -⟩
      · rw [hmade, hares, if_pos rfl]
      · exact absurd rfl hne
    · rcases Table.lookup_insert_eq_some.mp ho with ⟨he, -⟩ | ⟨-, ho⟩
      · exact absurd he hne
      · exact h.tracked hs ho
  · rw [hdata, Table.lookup_insert_if] at hs
    rw [hsock, Table.lookup_insert_if] at ho
    by_cases hs' : s' = s
    · rw [if_pos hs'] at hs
      simp at hs
    · rw [if_neg hs'] at hs ho
      exact h.untracked hs ho

/-- A close leaves a number without a socket, an open gives it a new one of ours. -/
theorem refill {o : Option SockId} (h : KeepsMakers made m m')
    (hmade : ∀ o', o = some o' → made o' = some .curlOpenSocketCallback)
    (hsock : ∀ j, m'.socketMap.lookup j = if j = s then o else m.socketMap.lookup j)
    (hdata : m'.socketDataMap = m.socketDataMap.erase s) : Made made m' := by
  refine ⟨fun {s' sd' o'} hs ho => ?_, fun {s' o'} hs ho => ?_⟩
  · rw [hdata] at hs
    obtain ⟨hne, hs⟩ := Table.lookup_erase_eq_some.mp hs
    rw [hsock, if_neg hne] at ho
    exact h.tracked hs ho
  · by_cases hs' : s' = s
    · rw [hsock, if_pos hs'] at ho
      exact hmade o' ho
    · rw [hdata, Table.lookup_erase_if, if_neg hs'] at hs
      rw [hsock, if_neg hs'] at ho
      exact h.untracked hs ho

end KeepsMakers

theorem Made.step {made made' : SockId → Option Maker} (h : Made made m) (hnat : Native m)
    (ht : Tracking m) (hn : m.next a = some m')
    (hmade : made' = if m.asio.socks.next < m'.asio.socks.next then
      Function.update made m.asio.socks.next a.maker else made) : Made made' m' := by
  have hkeeps : KeepsMakers made' m m' := by
    rw [hmade]
    exact h.keeps ht hn
  have hnew : m.asio.socks.next < m'.asio.socks.next → made' m.asio.socks.next = a.maker := by
    intro hlt
    rw [hmade, if_pos hlt, Function.update_self]
  cases next_mapStep hnat ht hn with
  | keep hsock hdata _ => exact hkeeps.same hsock hdata
  | remove hs₀ ho₀ hares hsock hdata _ =>
      refine hkeeps.remove hs₀ ho₀ ?_ hsock hdata
      rw [next_marks hn _ (ht.dataLt hs₀), hares]
  | release _ _ hsock hdata _ => exact hkeeps.release hsock hdata
  | track hfree _ hsock hdata hares _ => exact hkeeps.track hfree hsock hdata hares
  | wrap _ _ hsock hdata hares hnext _ => exact hkeeps.wrap (hnew hnext) hsock hdata hares
  | close hsock hdata _ => exact hkeeps.refill (fun _ he => by simp at he) hsock hdata
  | opens hsock hdata hnext _ =>
      refine hkeeps.refill (fun o' he => ?_) hsock hdata
      obtain rfl := Option.some.inj he
      exact hnew hnext

theorem run_made {C : CurlMulti → Action → Prop} (h : machine.Run C tr m) :
    Made (makers tr) m := by
  refine h.noted (P := Made) ⟨fun hs => ?_, fun _ ho => ?_⟩ ?_
  · simp [machine, boot] at hs
  · simp [machine, boot] at ho
  · exact fun _ _ _ _ hr hm _ hn => hm.step (native hr) (tracking hr) hn rfl

/-- What the maps say of each other. -/
structure Consistent (tr : List Action) (m : CurlMulti) : Prop where
  /-- A tracked number has an open socket object, and its mark says who made that. -/
  socket : ∀ ⦃s sd⦄, m.socketDataMap.lookup s = some sd → ∃ o maker,
    m.socketMap.lookup s = some o ∧ (m.asio.socks.cell o).native = some s ∧
      makers tr o = some maker ∧ ((m.data sd).isAresSocket = true ↔ maker = .wrapTcpSocket)
  /-- A wrap that fails leaves the maps as they were. -/
  wrapFails : ∀ ⦃s what refusal oom⦄, what ≠ CURL_POLL_REMOVE →
    m.socketDataMap.lookup s = none → m.socketMap.lookup s = none →
    m.asio.assignSocket s refusal = none →
    (m.curlSocketCallbackStatic s what refusal oom).1.socketMap = m.socketMap ∧
      (m.curlSocketCallbackStatic s what refusal oom).1.socketDataMap = m.socketDataMap
  /-- `SetSock` never meets an unknown socket. -/
  known : ∀ ⦃s refusal sd⦄, (m.requested s refusal).2 = some sd →
    ∃ o, (m.requested s refusal).1.socketMap.lookup s = some o

theorem requested_known {s : Fd} {refusal : Kernel.Refusal} {sd : SocketDataId}
    (ht : Tracking m) (hr : (m.requested s refusal).2 = some sd) :
    (m.requested s refusal).1.socketDataMap.lookup s = some sd ∧
      ∃ o, (m.requested s refusal).1.socketMap.lookup s = some o := by
  have htracked : Tracking (m.requested s refusal).1 ∧
      (m.requested s refusal).1.socketDataMap.lookup s = some sd := by
    unfold requested at hr ⊢
    split at hr
    · rename_i sd' hs
      obtain rfl := Option.some.inj hr
      exact ⟨ht, hs⟩
    · refine ⟨ht.addSocket, ?_⟩
      have hadd : m.addSocket s refusal = ((m.addSocket s refusal).1, some sd) := by rw [← hr]
      exact Tracking.addSocket_tracked hadd
  exact ⟨htracked.2, htracked.1.dataSock htracked.2⟩

/-- **The socket maps are consistent** whenever a callback has returned. -/
theorem maps_consistent {C : CurlMulti → Action → Prop} (h : machine.Run C tr m) :
    Consistent tr m where
  socket := by
    intro s sd hs
    obtain ⟨o, ho⟩ := (tracking h).dataSock hs
    refine ⟨o, _, ho, native h ho, (run_made h).tracked hs ho, ?_⟩
    cases (m.data sd).isAresSocket with
    | true => simp
    | false => simp
  wrapFails := by
    intro s what refusal oom hwhat hs ho hwrap
    obtain ⟨-, hsock, hdata, -⟩ :=
      m.static_same s what refusal oom
    have hr : m.requested s refusal =
        (({ m with socketData := m.socketData.alloc { isAresSocket := true } } :
          CurlMulti).printUnlessDetached.push (.assign s none), none) := by
      unfold requested addSocket
      rw [hs]
      dsimp only
      rw [ho]
      dsimp only
      rw [hwrap]
    rw [request_none hwhat (by rw [hr]), hr] at hsock hdata
    have hprint := Apart.printUnlessDetached
      { m with socketData := m.socketData.alloc { isAresSocket := true } }
    exact ⟨hsock.trans hprint.socketMap, hdata.trans hprint.socketDataMap⟩
  known := fun s refusal sd hr => (requested_known (tracking h) hr).2

/-- One socket of ours, kept over a REMOVE, one of c-ares, and a wrap that fails. -/
def mapping : List Action :=
  [.openSocketCallback .ipcxn .inet (some 5),
   .socketCallback 5 CURL_POLL_IN .none none,
   .socketCallback 5 CURL_POLL_REMOVE .none none,
   .socketCallback 5 CURL_POLL_OUT .none none,
   .foreignOpen 6,
   .socketCallback 6 CURL_POLL_IN .none none,
   .socketCallback 7 CURL_POLL_IN .none none]

def mapped : CurlMulti := (machine.exec Machine.Free boot mapping).get (by decide)

theorem maps_consistent_mapped : Consistent mapping mapped :=
  maps_consistent (Machine.run_of_exec (Option.some_get _).symm)

example : mapped.socketDataMap.lookup 5 = some 1 ∧ (mapped.data 1).isAresSocket = false ∧
    mapped.socketDataMap.lookup 6 = some 2 ∧ (mapped.data 2).isAresSocket = true ∧
    mapped.socketDataMap.lookup 7 = none := by
  decide

end CurlMulti

end AmxxCurl
