/-
Generations of a number: whether a wait is armed for what its number has now.

`SetSock` arms what it has just looked up.  The handler that renews its wait holds the
`SocketData` it was bound to, and takes for granted that the number still has it if a
`SocketData` is tracked there and no REMOVE was recorded meanwhile.  But a close, and the
eviction of a stale entry, take a `SocketData` away and record nothing.  A number that was
closed and added again while the handler ran is then armed twice: for its new `SocketData`,
and for the old one, whose wait nobody will ever hear of.  `evicted` notes that such a thing
has happened since the handler on the stack started.

There is a second way for a socket to carry two waits of a direction.  REMOVE cancels the
waits on its socket, but not one that has completed and whose handler is still to be called:
that one stands until then.  A request that comes before has a `SocketData` of its own,
whose flags are clear, and gets the direction armed beside it.  This is no call for an old
generation, and the handler of the one that was left over sees that its `SocketData` is
gone.
-/
import AmxxCurl.Multi.Requests

namespace AmxxCurl

namespace CurlMulti

variable {m m' : CurlMulti} {a : Action} {tr : List Action} {c : ArmCall}

/-- The call is for what its number has in the maps. -/
def ArmCall.Current (c : ArmCall) : Prop :=
  c.state.socketDataMap.lookup c.s = some c.sd ∧ c.state.socketMap.lookup c.s = some c.o

instance (c : ArmCall) : Decidable c.Current := inferInstanceAs (Decidable (_ ∧ _))

/-- Every call of `ArmWaits` along the trace is. -/
def CallsCurrent (tr : List Action) : Prop :=
  ∀ t₁ a t₂ m c, tr = t₁ ++ a :: t₂ → machine.Run Machine.Free t₁ m → m.armCall a = some c →
    c.Current

/-- The handler on the stack is for a number that loses its `SocketData` in this step. -/
def losesHandlerData (m m' : CurlMulti) : Bool :=
  match m.handler with
  | some (.socket _ s _ _ _) =>
      (m.socketDataMap.lookup s).isSome && (m'.socketDataMap.lookup s).isNone
  | _ => false

/-- What is noted of evictions: a close, or an open that finds a stale entry. -/
def noteEviction (b : Bool) (m : CurlMulti) (a : Action) (m' : CurlMulti) : Bool :=
  match a with
  | .dispatch _ => false
  | .closeSocketCallback _ => b || m.losesHandlerData m'
  | .openSocketCallback .. => b || m.losesHandlerData m'
  | _ => b

/-- Since the handler on the stack started, its number has lost a `SocketData` to a close
or to the eviction of a stale entry. -/
def evicted (tr : List Action) : Bool := machine.observe noteEviction false boot tr

/-- No handler comes to renew its wait after its number was taken away. -/
def Undisturbed (tr : List Action) : Prop :=
  ∀ t₁ oom t₂ m, tr = t₁ ++ .checkMultiInfoReturn oom :: t₂ → machine.Run Machine.Free t₁ m →
    (m.armCall (.checkMultiInfoReturn oom)).isSome → evicted t₁ = false

/-- The wait is on the socket `o`, nobody has cancelled it, and its handler is still to be
called. -/
def Standing (m : CurlMulti) (o : SockId) (dir : Dir) (w : WaitId) : Prop :=
  (m.wait w).outstanding = true ∧ (m.wait w).cancelled = false ∧ (m.wait w).sock = o ∧
    (m.wait w).dir = dir

instance (m : CurlMulti) (o : SockId) (dir : Dir) (w : WaitId) : Decidable (m.Standing o dir w) :=
  inferInstanceAs (Decidable (_ ∧ _ ∧ _ ∧ _))

/-- A socket in the map carries one uncancelled wait of a direction at most. -/
def OneWait (m : CurlMulti) : Prop :=
  ∀ s o dir (w w' : WaitId), m.socketMap.lookup s = some o → m.Standing o dir w →
    m.Standing o dir w' → w = w'

/-- It does in every state along the trace. -/
def OneWaits (tr : List Action) : Prop :=
  ∀ t₁ t₂ m, tr = t₁ ++ t₂ → machine.Run Machine.Free t₁ m → m.OneWait

/-- The wait stands on the socket of a number, for a `SocketData` the number has lost. -/
def LeftOver (m : CurlMulti) (s : Fd) (o : SockId) (dir : Dir) (w : WaitId) : Prop :=
  m.Standing o dir w ∧ m.socketDataMap.lookup s ≠ some (m.wait w).sd

/-- Nothing is armed on a socket that has a wait of the direction left over. -/
def Unhurried (m : CurlMulti) : Action → Prop
  | .socketCallback s what _ oom => ∀ o dir, m.socketMap.lookup s = some o →
      m.Asks s what oom dir → ∀ w : WaitId, ¬m.LeftOver s o dir w
  | _ => True

/-! ### The two callers of `ArmWaits` -/

/-- What `SetSock` arms is what it has looked up. -/
theorem socketCallback_current {s : Fd} {what : CInt} {refusal : Kernel.Refusal}
    {oom : Option Dir} (ht : Tracking m)
    (hc : m.armCall (.socketCallback s what refusal oom) = some c) : c.Current := by
  simp only [armCall] at hc
  split at hc
  · simp at hc
  · obtain ⟨sd, hsd, hc⟩ := Option.bind_eq_some_iff.mp hc
    have hdata := (requested_known ht hsd).1
    rcases (m.requested s refusal).1.setSock_call what s sd oom with
      ⟨hno, -⟩ | ⟨c', hc', hstate, -, hs, hsd', ho, -⟩
    · rw [hno] at hc
      simp at hc
    · obtain rfl := Option.some.inj (hc.symm.trans hc')
      unfold ArmCall.Current
      rw [hstate, hs, hsd']
      exact ⟨hdata, ho⟩

/-- What the handler that renews its wait has looked at. -/
structure ArmCall.Renews (c : ArmCall) (m : CurlMulti) (oom : Option Dir) : Prop where
  handler : ∃ dir, m.handler = some (.socket dir c.s c.sd false .inCheckMultiInfo)
  removed : c.s ∉ m.removedSockets
  tracked : (m.socketDataMap.lookup c.s).isSome
  socket : m.socketMap.lookup c.s = some c.o
  act_eq : c.act = (m.data c.sd).previousAction
  oom_eq : c.oom = oom
  data : c.state.socketData = m.socketData
  current : c.Current ↔ m.socketDataMap.lookup c.s = some c.sd

theorem rearmCall_oom {s : Fd} {sd : SocketDataId} {error : Bool} {oom : Option Dir}
    (hc : m.rearmCall s sd error oom = some c) : c.oom = oom := by
  unfold rearmCall at hc
  dsimp only at hc
  generalize (if m.runningHandles ≤ 0 then m.cancelTimer else m) = m₁ at hc
  split at hc
  · obtain ⟨o, -, rfl⟩ := Option.map_eq_some_iff.mp hc
    rfl
  · simp at hc

theorem armCall_renews {oom : Option Dir} (hc : m.armCall (.checkMultiInfoReturn oom) = some c) :
    c.Renews m oom := by
  simp only [armCall] at hc
  split at hc
  · rename_i dir s sd error hh
    rcases m.rearm_call s sd error oom with
      ⟨hno, -⟩ | ⟨c', hc', hstate, hact, rfl, rfl, rfl, hremoved, hdata, ho, -⟩
    · rw [hno] at hc
      simp at hc
    · obtain rfl := Option.some.inj (hc.symm.trans hc')
      have hsame : c.state.socketDataMap = m.socketDataMap ∧
          c.state.socketMap = m.socketMap ∧ c.state.socketData = m.socketData := by
        rw [hstate]
        split <;> exact ⟨rfl, rfl, rfl⟩
      refine ⟨⟨dir, hh⟩, hremoved, hdata, ho, hact, rearmCall_oom hc, hsame.2.2, ?_⟩
      unfold ArmCall.Current
      rw [hsame.1, hsame.2.1]
      exact and_iff_left ho
  · simp at hc

theorem armCall_cases (hc : m.armCall a = some c) :
    (∃ s what refusal oom, a = .socketCallback s what refusal oom) ∨
      ∃ oom, a = .checkMultiInfoReturn oom := by
  cases a with
  | socketCallback s what refusal oom => exact Or.inl ⟨s, what, refusal, oom, rfl⟩
  | checkMultiInfoReturn oom => exact Or.inr ⟨oom, rfl⟩
  | _ => simp [armCall] at hc

/-! ### What the handler on the stack holds -/

/-- Its `SocketData` is tracked for as long as neither a REMOVE nor an eviction is noted. -/
def HandlerData (b : Bool) (m : CurlMulti) : Prop :=
  ∀ {dir s sd error phase}, m.handler = some (.socket dir s sd error phase) →
    s ∉ m.removedSockets → (m.socketDataMap.lookup s = some sd ↔ b = false)

/-- The handler starts with its `SocketData` tracked. -/
theorem dispatch_data {w : Nat} {dir : Dir} {s : Fd} {sd : SocketDataId} {error : Bool}
    {phase : Phase} (hn : m.next (.dispatch w) = some m')
    (hh : m'.handler = some (.socket dir s sd error phase)) :
    m'.socketDataMap.lookup s = some sd := by
  cases next_fires hn with
  | dispatch _ r hidle hst =>
      obtain ⟨he, -, hdata⟩ := asioSocketActionCallback_some hh hidle
      obtain ⟨-, rfl, rfl, -, -⟩ := Handler.socket.inj he
      rw [Still.asioSocketActionCallback.socketDataMap]
      exact hdata

/-- Nothing is noted of a step that leaves `socket_data_map_` alone. -/
theorem noteEviction_same {b : Bool} (hdata : m'.socketDataMap = m.socketDataMap)
    (ha : ∀ w, a ≠ .dispatch w) : noteEviction b m a m' = b := by
  have hno : m.losesHandlerData m' = false := by
    unfold losesHandlerData
    split
    · rw [hdata]
      cases m.socketDataMap.lookup _ <;> rfl
    · rfl
  cases a with
  | dispatch w => exact absurd rfl (ha w)
  | closeSocketCallback s =>
      show (b || m.losesHandlerData m') = b
      rw [hno, Bool.or_false]
  | openSocketCallback purpose family reply =>
      show (b || m.losesHandlerData m') = b
      rw [hno, Bool.or_false]
  | _ => rfl

/-- A `SocketData` that is not tracked any more is not tracked again. -/
theorem HandlerData.step {b : Bool} (h : HandlerData b m) (hnat : Native m) (ht : Tracking m)
    (hn : m.next a = some m') : HandlerData (noteEviction b m a m') m' := by
  intro dir s sd error phase hh' hs'
  rcases next_handler hn hh' with ⟨w, rfl⟩ | ⟨phase', hh⟩
  · exact iff_of_true (dispatch_data hn hh') rfl
  · have hlt : sd < m.socketData.next := (ht.handlerFd hh).1
    -- a step that keeps the number and the note
    have hkeep : m'.socketDataMap.lookup s = m.socketDataMap.lookup s → s ∉ m.removedSockets →
        (m'.socketDataMap.lookup s = some sd ↔ b = false) := by
      intro hsame hs
      rw [hsame]
      exact h hh hs
    -- a number gets a new one: if it is this number, it did not have this one
    have htrack : ∀ {s₀}, m.socketDataMap.lookup s₀ = none →
        m'.socketDataMap = m.socketDataMap.insert s₀ m.socketData.next → s ∉ m.removedSockets →
        (m'.socketDataMap.lookup s = some sd ↔ b = false) := by
      intro s₀ hnew hdata hs
      by_cases he : s = s₀
      · have hb := h hh hs
        rw [hdata, Table.lookup_insert_if, if_pos he]
        rw [he, hnew] at hb
        have hne : m.socketData.next ≠ sd := Nat.ne_of_gt hlt
        simpa [hne] using hb
      · exact hkeep (by rw [hdata, Table.lookup_insert_if, if_neg he]) hs
    -- a close or an eviction, of this number or of another
    have herase : ∀ {s₀}, m'.socketDataMap = m.socketDataMap.erase s₀ → s ∉ m.removedSockets →
        (m'.socketDataMap.lookup s = some sd ↔ (b || m.losesHandlerData m') = false) := by
      intro s₀ hdata hs
      have hloses : m.losesHandlerData m' =
          ((m.socketDataMap.lookup s).isSome && (m'.socketDataMap.lookup s).isNone) := by
        unfold losesHandlerData
        rw [hh]
      have hb := h hh hs
      rw [hloses, hdata, Table.lookup_erase_if]
      by_cases he : s = s₀
      · rw [if_pos he]
        cases hd : m.socketDataMap.lookup s with
        | some sd' => simp
        | none =>
            rw [hd] at hb
            simpa using hb
      · rw [if_neg he]
        cases hd : m.socketDataMap.lookup s with
        | some sd' =>
            rw [hd] at hb
            simpa using hb
        | none =>
            rw [hd] at hb
            simpa using hb
    cases next_mapStep hnat ht hn with
    | keep hsock hdata hremoved =>
        by_cases hdispatch : ∃ w, a = .dispatch w
        · obtain ⟨w, rfl⟩ := hdispatch
          exact iff_of_true (dispatch_data hn hh') rfl
        · have ha : ∀ w, a ≠ .dispatch w := fun w he => hdispatch ⟨w, he⟩
          rw [noteEviction_same hdata ha]
          exact hkeep (by rw [hdata]) (hremoved ha ▸ hs')
    | @remove s₀ _ _ _ _ _ _ _ _ _ hdata hremoved =>
        rw [hremoved, Finset.mem_insert, not_or] at hs'
        exact hkeep (by rw [hdata, Table.lookup_erase_if, if_neg hs'.1]) hs'.2
    | @release s₀ _ _ _ _ _ _ _ _ hdata hremoved =>
        rw [hremoved, Finset.mem_insert, not_or] at hs'
        exact hkeep (by rw [hdata, Table.lookup_erase_if, if_neg hs'.1]) hs'.2
    | track hnew _ _ hdata _ hremoved => exact htrack hnew hdata (hremoved ▸ hs')
    | wrap hnew _ _ hdata _ _ hremoved => exact htrack hnew hdata (hremoved ▸ hs')
    | close _ hdata hremoved => exact herase hdata (hremoved ▸ hs')
    | opens _ hdata _ hremoved => exact herase hdata (hremoved ▸ hs')

theorem run_handlerData {C : CurlMulti → Action → Prop} (h : machine.Run C tr m) :
    HandlerData (evicted tr) m := by
  refine h.noted (P := fun b m => HandlerData b m) ?_ ?_
  · intro dir s sd error phase hh
    simp [machine, boot] at hh
  · exact fun _ _ _ _ hr hb _ hn => hb.step (native hr) (tracking hr) hn

/-! ### What is armed on a socket -/

theorem removeSocket_socks (m : CurlMulti) (s : Fd) (sd : SocketDataId) :
    (m.removeSocket s sd).1.asio.socks.next = m.asio.socks.next := by
  unfold removeSocket
  split
  · rfl
  · rename_i o _
    split
    · split
      · rfl
      · rename_i asio hrelease
        exact (Asio.cancels_release hrelease).socks_next
    · exact (Asio.cancels_cancel m.asio o).socks_next

/-- Socket objects are numbered upwards. -/
theorem next_socks (hnat : Native m) (ht : Tracking m) (hn : m.next a = some m') :
    m.asio.socks.next ≤ m'.asio.socks.next := by
  by_cases ha : a.OnSocket
  · cases next_fires hn with
    | socketCallback s what refusal oom =>
        rw [(m.static_same s what refusal oom).1]
        by_cases hwhat : what = CURL_POLL_REMOVE
        · unfold curlSocketCallback
          rw [if_pos hwhat]
          split
          · exact Nat.le_refl _
          · rw [removeSocket_socks]
        · have hle := m.requested_socks s refusal
          cases hr : (m.requested s refusal).2 with
          | none =>
              rw [request_none hwhat hr]
              exact hle
          | some sd =>
              rw [request_some oom hwhat hr]
              split
              · exact hle
              · rw [(CurlMulti.setSock_same ..).2.2.1]
                exact hle
    | openSocketCallback purpose family reply hfree =>
        rcases hnat.curlOpenSocketCallback_cases ht purpose family reply with
          he | ⟨s, asio, o, rfl, ho⟩
        · rw [he]
        · obtain ⟨-, hnext, -⟩ := Asio.openSocket_spec ho.openSocket
          have hsame : (m.curlOpenSocketCallback purpose family (some s)).1.asio.socks.next =
              asio.socks.next := by
            cases hs : m.socketMap.lookup s with
            | none => rw [(ho.fresh hs).1]
            | some stale => exact (Asio.cancels_release (ho.evicted stale hs).1).socks_next
          rw [hsame, hnext]
          exact Nat.le_succ _
    | closeSocketCallback s =>
        unfold curlCloseSocketCallback
        dsimp only
        split
        · exact Nat.le_refl _
        · rename_i o _
          show _ ≤ (m.destroySocket o).asio.socks.next
          rw [(Tracking.destroySocket_asio m o).1, (Asio.cancels_destroy m.asio o).socks_next]
    | foreignOpen s hfree => exact Nat.le_refl _
    | foreignClose s => exact Nat.le_refl _
    | _ => exact ha.elim
  · rw [(next_still hn ha).socks]

/-- Each call of `ArmWaits` in the run was for what its number has. -/
def ArmsCurrent (m : CurlMulti) (a : Action) : Prop := ∀ c, m.armCall a = some c → c.Current

/-- A socket in the map after a step was there before, or is new. -/
theorem next_socket {s : Fd} {o : SockId} (hnat : Native m) (ht : Tracking m)
    (hn : m.next a = some m') (ho : m'.socketMap.lookup s = some o) :
    m.socketMap.lookup s = some o ∨ o = m.asio.socks.next := by
  cases next_mapStep hnat ht hn with
  | keep hsock _ _ => exact Or.inl (hsock ▸ ho)
  | remove _ _ _ hsock _ _ => exact Or.inl (hsock ▸ ho)
  | release _ _ hsock _ _ =>
      rw [hsock] at ho
      exact Or.inl (Table.lookup_erase_eq_some.mp ho).2
  | track _ _ hsock _ _ _ => exact Or.inl (hsock ▸ ho)
  | wrap _ _ hsock _ _ _ _ =>
      rw [hsock] at ho
      rcases Table.lookup_insert_eq_some.mp ho with ⟨-, he⟩ | ⟨-, ho⟩
      · exact Or.inr he
      · exact Or.inl ho
  | @close s₀ _ hsock _ _ =>
      rw [hsock] at ho
      split at ho
      · simp at ho
      · exact Or.inl ho
  | @opens s₀ _ _ _ hsock _ _ _ =>
      rw [hsock] at ho
      split at ho
      · exact Or.inr (Option.some.inj ho).symm
      · exact Or.inl ho

/-- A wait that stands after a step did before, or its call has just started it. -/
theorem next_standing {o : SockId} {dir : Dir} {w : Nat} (ht : Tracking m)
    (ht' : Tracking m') (hn : m.next a = some m') (hw : m'.Standing o dir w) :
    m.Standing o dir w ∧ (m'.wait w).sd = (m.wait w).sd ∨
      ∃ c, m.armCall a = some c ∧ Through m m' c ∧ c.state.asio.waits.next ≤ w ∧
        c.o = o ∧ (m'.wait w).sd = c.sd ∧ wants c.act dir = true ∧
        (c.state.data c.sd).armed dir = false := by
  obtain ⟨hout, hcancelled, hsock, hdir⟩ := hw
  obtain ⟨-, hold, hnew⟩ := next_waits hn
  rcases next_outstanding ht' hn hout with ⟨hout₀, hdir₀, hsd₀, hsock₀⟩ | ⟨hle, -⟩
  · obtain ⟨-, -, -, hkeep⟩ := hold w (ht.waitLt hout₀).1
    exact Or.inl ⟨⟨hout₀, hkeep hcancelled, hsock₀ ▸ hsock, hdir₀ ▸ hdir⟩, hsd₀⟩
  · obtain ⟨c, dir', hc, hthrough, hcell, hwants, harmed⟩ := hnew w hle (ht'.waitLt hout).1
    rw [hcell] at hsock hdir ⊢
    obtain rfl : dir' = dir := hdir
    refine Or.inr ⟨c, hc, hthrough, ?_, hsock, rfl, hwants, harmed⟩
    rw [hthrough.rests.next_eq]
    exact hle

/-- What holds of the waits that stand on the sockets in the map. -/
structure Lone (m : CurlMulti) : Prop where
  one : m.OneWait
  /-- In a direction that is wanted, they are for the `SocketData` their number has. -/
  wanted : ∀ {s sd o dir w}, m.socketDataMap.lookup s = some sd →
    m.socketMap.lookup s = some o → wants (m.data sd).previousAction dir = true →
    m.Standing o dir w → (m.wait w).sd = sd
  /-- A socket object is there before what is armed on it. -/
  sockLt : ∀ {w : WaitId}, (m.wait w).outstanding = true → (m.wait w).sock < m.asio.socks.next

/-- A socket object that is yet to be made has no waits. -/
theorem Lone.unused {dir : Dir} {w : WaitId} (h : Lone m) :
    ¬m.Standing m.asio.socks.next dir w := by
  intro hw
  have hlt := h.sockLt hw.1
  rw [hw.2.2.1] at hlt
  exact Nat.lt_irrefl _ hlt

/-- A direction whose flag is clear has no wait standing for the object. -/
theorem Standing.armed {o : SockId} {dir : Dir} {w : WaitId} (ht : Tracking m)
    (hw : m.Standing o dir w) : (m.data (m.wait w).sd).armed dir = true :=
  (ht.armedIff _ _).mpr ⟨w, hw.1, rfl, hw.2.2.2⟩

/-- **A wait is started only where none stands.** -/
theorem Lone.vacant {dir : Dir} {w w₀ : Nat} (h : Lone m) (hnat : Native m) (ht : Tracking m)
    (ht' : Tracking m') (hn : m.next a = some m') (hcur : c.Current) (hunh : Unhurried m a)
    (hc : m.armCall a = some c) (hthrough : Through m m' c)
    (hle : c.state.asio.waits.next ≤ w) (hw : m'.Standing c.o dir w)
    (hwants : wants c.act dir = true) (harmed : (c.state.data c.sd).armed dir = false) :
    ¬m.Standing c.o dir w₀ := by
  intro hw₀
  have harmed₀ := hw₀.armed ht
  rcases armCall_cases hc with ⟨s, what, refusal, oom, rfl⟩ | ⟨oom, rfl⟩
  · obtain ⟨-, -, hr, hs, -, -, hknown⟩ := armCall_request hc
    have ho' : m'.socketMap.lookup s = some c.o := by
      rw [hthrough.socketMap, ← hs]
      exact hcur.2
    rcases next_socket hnat ht hn ho' with ho | ho
    · -- what stands there is for what the number has, or left over
      have hlt : w < c.after.asio.waits.next := by
        rw [← hthrough.asio]
        exact (ht'.waitLt hw.1).1
      have hask := armCall_asks hc hle hlt
      have hdir : (c.after.wait w).dir = dir := by
        rw [wait, ← hthrough.asio]
        exact hw.2.2.2
      rw [hdir] at hask
      have hdata : m.socketDataMap.lookup s = some (m.wait w₀).sd :=
        Classical.not_not.mp fun hne => hunh c.o dir ho hask w₀ ⟨hw₀, hne⟩
      rw [hknown dir, known_tracked hdata, harmed₀] at harmed
      simp at harmed
    · rw [ho] at hw₀
      exact h.unused hw₀
  · have hrenews := armCall_renews hc
    rw [hrenews.act_eq] at hwants
    have hsame := h.wanted (hrenews.current.mp hcur) hrenews.socket hwants hw₀
    rw [data, hrenews.data, ← hsame] at harmed
    rw [harmed] at harmed₀
    simp at harmed₀

/-- A socket in the map that carries a wait from before the step was there. -/
theorem Lone.there {s : Fd} {o : SockId} {dir : Dir} {w : WaitId} (h : Lone m) (hnat : Native m)
    (ht : Tracking m) (hn : m.next a = some m') (ho : m'.socketMap.lookup s = some o)
    (hw : m.Standing o dir w) : m.socketMap.lookup s = some o := by
  rcases next_socket hnat ht hn ho with ho | ho
  · exact ho
  · rw [ho] at hw
    exact absurd hw h.unused

/-- A wait from before the step is for what the number has, where its direction is wanted. -/
theorem Lone.still {s : Fd} {sd : SocketDataId} {o : SockId} {dir : Dir} {w : WaitId}
    (h : Lone m) (hnat : Native m) (ht : Tracking m) (ht' : Tracking m') (hunh : Unhurried m a)
    (hn : m.next a = some m') (hs : m'.socketDataMap.lookup s = some sd)
    (ho : m.socketMap.lookup s = some o) (hwants : wants (m'.data sd).previousAction dir = true)
    (hw : m.Standing o dir w) : (m.wait w).sd = sd := by
  by_cases hreq : ∃ what refusal oom, a = .socketCallback s what refusal oom ∧
      what ≠ CURL_POLL_REMOVE
  · obtain ⟨what, refusal, oom, rfl, hwhat⟩ := hreq
    have hwhich := requested_which (request_data ht hwhat hn hs).1
    rcases request_previous ht hwhat hn hs with ⟨hrec, hprevious⟩ | ⟨-, hprevious⟩
    · -- the direction is asked for, so what stands there is not left over
      rw [hprevious] at hwants
      have hdata : m.socketDataMap.lookup s = some (m.wait w).sd :=
        Classical.not_not.mp fun hne => hunh o dir ho (hrec.asks hwants) w ⟨hw, hne⟩
      rcases hwhich with hs₀ | ⟨hs₀, -⟩ <;> rw [hdata] at hs₀
      · exact Option.some.inj hs₀
      · simp at hs₀
    · rw [hprevious] at hwants
      rcases hwhich with hs₀ | ⟨hs₀, -⟩
      · rw [known_tracked hs₀] at hwants
        exact h.wanted hs₀ ho hwants hw
      · rw [known_none hs₀] at hwants
        exact absurd (hwants.symm.trans (wants_none dir)) (by decide)
  · obtain ⟨hs₀, hprevious⟩ := next_known hnat ht ht' hn hs fun what refusal oom he =>
      Classical.not_not.mp fun hwhat => hreq ⟨what, refusal, oom, he, hwhat⟩
    rw [hprevious] at hwants
    exact h.wanted hs₀ ho hwants hw

/-- A step keeps it. -/
theorem Lone.step (h : Lone m) (hnat : Native m) (ht : Tracking m) (ht' : Tracking m')
    (hcur : ArmsCurrent m a) (hunh : Unhurried m a) (hn : m.next a = some m') : Lone m' := by
  have hvacant : ∀ {o dir} {w w₀ : Nat} {c : ArmCall}, m.armCall a = some c → Through m m' c →
      c.state.asio.waits.next ≤ w → c.o = o → wants c.act dir = true →
      (c.state.data c.sd).armed dir = false → m'.Standing o dir w → ¬m.Standing o dir w₀ := by
    intro o dir w w₀ c hc hthrough hle ho hwants harmed hw
    subst ho
    exact h.vacant hnat ht ht' hn (hcur c hc) hunh hc hthrough hle hw hwants harmed
  refine ⟨?_, ?_, ?_⟩
  · intro s o dir w w' ho hw hw'
    rcases next_standing ht ht' hn hw with ⟨hw₀, -⟩ | ⟨c, hc, hthrough, hle, hco, hsd, hrest⟩
    · rcases next_standing ht ht' hn hw' with
        ⟨hw₀', -⟩ | ⟨c, hc, hthrough, hle, hco, -, hwants, harmed⟩
      · exact h.one s o dir w w' (h.there hnat ht hn ho hw₀) hw₀ hw₀'
      · exact absurd hw₀ (hvacant hc hthrough hle hco hwants harmed hw')
    · rcases next_standing ht ht' hn hw' with ⟨hw₀', -⟩ | ⟨c', hc', -, -, -, hsd', -⟩
      · exact absurd hw₀' (hvacant hc hthrough hle hco hrest.1 hrest.2 hw)
      · -- one call starts one wait of a direction
        obtain rfl := Option.some.inj (hc.symm.trans hc')
        exact Bound.unique ht' ⟨hw.1, hsd, hw.2.2.2⟩ ⟨hw'.1, hsd', hw'.2.2.2⟩
  · intro s sd o dir w hs ho hwants hw
    rcases next_standing ht ht' hn hw with ⟨hw₀, hsd⟩ | ⟨c, hc, hthrough, -, hco, hsd, -⟩
    · rw [hsd]
      exact h.still hnat ht ht' hunh hn hs (h.there hnat ht hn ho hw₀) hwants hw₀
    · -- a new wait is for the `SocketData` its call found
      obtain ⟨hdata, hsocks⟩ := hcur c hc
      rw [← hthrough.socketDataMap] at hdata
      rw [← hthrough.socketMap, hco] at hsocks
      rw [ht'.sockInj hsocks ho, hs] at hdata
      exact hsd.trans (Option.some.inj hdata).symm
  · intro w hout
    rcases next_outstanding ht' hn hout with
      ⟨hout₀, -, -, hsock₀⟩ | ⟨-, c, dir, hc, hthrough, hw, -⟩
    · rw [hsock₀]
      exact Nat.lt_of_lt_of_le (h.sockLt hout₀) (next_socks hnat ht hn)
    · rw [hw]
      refine ht'.sockLt (s := c.s) ?_
      rw [hthrough.socketMap]
      exact (hcur c hc).2

theorem run_lone (h : machine.Run (fun m a => ArmsCurrent m a ∧ Unhurried m a) tr m) :
    Lone m := by
  refine h.history (P := fun _ m => Lone m) ?_ ?_
  · refine ⟨?_, ?_, ?_⟩
    · intro s o dir w w' ho
      simp [machine, boot] at ho
    · intro s sd o dir w hs
      simp [machine, boot] at hs
    · intro w hout
      exact absurd hout Bool.false_ne_true
  · intro tr m a m' hr hP hc hn
    exact hP.step (native hr) (tracking hr) (tracking (.snoc hr hc hn)) hc.1 hc.2 hn

/-- What a request arms stands beside what was left over. -/
theorem OneWait.unhurried (ht : Tracking m) (ht' : Tracking m') (hn : m.next a = some m')
    (h : m'.OneWait) : Unhurried m a := by
  cases a with
  | socketCallback s what refusal oom =>
      intro o dir ho hask w hleft
      obtain ⟨hw, hlost⟩ := hleft
      have hwhat : what ≠ CURL_POLL_REMOVE := by
        rintro rfl
        exact absurd (hask.2.1.symm.trans (wants_remove dir)) (by decide)
      obtain ⟨sd, hs, ho', harmed⟩ := request_armed ht ho hask hn
      obtain ⟨w', hout', hsd', hdir'⟩ := (ht'.armedIff sd dir).mp harmed
      obtain ⟨-, hsock', hcancelled'⟩ := ht'.current hs ho' hout' hsd'
      obtain ⟨hlt, hsdLt⟩ := ht.waitLt hw.1
      have hsame := request_waits hwhat hn hlt
      have hstands : m'.Standing o dir w := by
        unfold Standing
        rw [hsame]
        exact hw
      obtain rfl := h s o dir w w' ho' hstands ⟨hout', hcancelled', hsock', hdir'⟩
      rw [hsame] at hsd'
      rcases requested_which (request_data ht hwhat hn hs).1 with hs₀ | ⟨-, hnew⟩
      · exact hlost (hs₀.trans (congrArg some hsd'.symm))
      · rw [hsd', hnew] at hsdLt
        exact Nat.lt_irrefl _ hsdLt
  | _ => trivial

/-! ### When every call is for the current generation -/

/-- The calls along a run are current iff each of its steps makes a current one. -/
theorem run_armsCurrent (h : machine.Run Machine.Free tr m) (hcur : CallsCurrent tr) :
    machine.Run ArmsCurrent tr m := by
  have key : ∀ {tr₀ m₀}, machine.Run Machine.Free tr₀ m₀ → CallsCurrent tr₀ →
      machine.Run ArmsCurrent tr₀ m₀ := by
    intro tr₀ m₀ hr
    induction hr with
    | init => exact fun _ => .init
    | @snoc t m₁ m₂ a hr _ hn ih =>
        intro hcur
        refine .snoc (ih ?_) (fun c hc => ?_) hn
        · intro t₁ b t₂ m₃ c he hr₃ hc
          exact hcur t₁ b (t₂ ++ [a]) m₃ c (by rw [he]; simp) hr₃ hc
        · exact hcur t a [] m₁ c rfl hr hc
  exact key h hcur

/-- The calls are current iff no handler comes to renew its wait too late. -/
theorem callsCurrent_iff : CallsCurrent tr ↔ Undisturbed tr := by
  constructor
  · intro hcur t₁ oom t₂ m₁ he hr hsome
    obtain ⟨c, hc⟩ := Option.isSome_iff_exists.mp hsome
    have hrenews := armCall_renews hc
    obtain ⟨dir, hh⟩ := hrenews.handler
    refine (run_handlerData hr hh hrenews.removed).mp (hrenews.current.mp ?_)
    exact hcur t₁ _ t₂ m₁ c he hr hc
  · intro hund t₁ a t₂ m₁ c he hr hc
    rcases armCall_cases hc with ⟨s, what, refusal, oom, rfl⟩ | ⟨oom, rfl⟩
    · exact socketCallback_current (tracking hr) hc
    · have hrenews := armCall_renews hc
      obtain ⟨dir, hh⟩ := hrenews.handler
      refine hrenews.current.mpr ((run_handlerData hr hh hrenews.removed).mpr ?_)
      exact hund t₁ oom t₂ m₁ he hr (by rw [hc]; rfl)

/-- Where the calls are current, the waits are single iff no request is made too early. -/
theorem oneWaits_iff (h : machine.Run ArmsCurrent tr m) :
    OneWaits tr ↔ machine.Run Unhurried tr m := by
  have halways := Machine.Run.always_iff (P := OneWait)
    (D := fun m a => ArmsCurrent m a ∧ Unhurried m a) (fun hr => (run_lone hr).one)
    (fun {tr m a m'} hr hc hn hone =>
      ⟨hc, hone.unhurried (tracking hr) (tracking (.snoc hr hc hn)) hn⟩) h
  rw [h.iff_of (P := Unhurried) (Q := fun m a => ArmsCurrent m a ∧ Unhurried m a)
    fun _ hc _ => (and_iff_right hc).symm, ← halways]
  constructor
  · intro hone t₁ t₂ m₁ he hr
    exact hone t₁ t₂ m₁ he hr.free
  · intro hone t₁ t₂ m₁ he hr
    rw [he] at h
    obtain ⟨m₂, hr₂⟩ := h.prefix_run
    rw [hr.unique hr₂]
    exact hone t₁ t₂ m₂ he hr₂

/--
**The waits are armed for what their number has iff no handler renews its wait after its
number was taken away from it.  A socket in the map carries one uncancelled wait of a
direction at most iff besides nothing is armed on a socket with a wait of the direction left
over.**
-/
theorem arms_current_iff (h : machine.Run Machine.Free tr m) :
    (CallsCurrent tr ↔ Undisturbed tr) ∧
      (CallsCurrent tr ∧ OneWaits tr ↔ Undisturbed tr ∧ machine.Run Unhurried tr m) := by
  refine ⟨callsCurrent_iff, ?_⟩
  rw [← callsCurrent_iff]
  exact and_congr_right fun hcur => oneWaits_iff (run_armsCurrent h hcur)

/--
While the handler of 5 runs, libcurl closes 5, opens a socket that gets the same number, and
adds it: the handler renews the wait of the `SocketData` that went with the close.
-/
def reopening : List Action :=
  [.openSocketCallback .ipcxn .inet (some 5), .socketCallback 5 CURL_POLL_IN .none none,
   .complete 0 .ok, .dispatch 0,
   .closeSocketCallback 5, .openSocketCallback .ipcxn .inet (some 5),
   .socketCallback 5 CURL_POLL_IN .none none, .socketActionReturn 1]

def reopened : CurlMulti := (machine.exec Machine.Free boot reopening).get (by decide)

def rearmed : CurlMulti := (reopened.next (.checkMultiInfoReturn none)).get (by decide)

/-- The call of the handler that renews the old wait. -/
def staleCall : ArmCall := (reopened.armCall (.checkMultiInfoReturn none)).get (by decide)

theorem stale_wait_armed :
    machine.Run Machine.Free (reopening ++ [Action.checkMultiInfoReturn none]) rearmed ∧
      ¬CallsCurrent (reopening ++ [Action.checkMultiInfoReturn none]) ∧ ¬rearmed.OneWait := by
  have hrun : machine.Run Machine.Free reopening reopened :=
    Machine.run_of_exec (Option.some_get _).symm
  refine ⟨.snoc hrun trivial (Option.some_get _).symm, fun hcur => ?_, fun hone => ?_⟩
  · have hc := hcur reopening (.checkMultiInfoReturn none) [] reopened staleCall rfl hrun
      (Option.some_get _).symm
    exact absurd hc (by decide)
  · have hsame : (1 : WaitId) = 2 := hone 5 1 .pollIn 1 2 (by decide) (by decide) (by decide)
    exact absurd hsame (by decide)

/-- The same without the close: the wait is renewed for what 5 has. -/
def renewing : List Action :=
  [.openSocketCallback .ipcxn .inet (some 5), .socketCallback 5 CURL_POLL_IN .none none,
   .complete 0 .ok, .dispatch 0, .socketActionReturn 1, .checkMultiInfoReturn none]

def renewed : CurlMulti := (machine.exec Machine.Free boot renewing).get (by decide)

theorem arms_current_iff_renewed : (CallsCurrent renewing ↔ Undisturbed renewing) ∧
    (CallsCurrent renewing ∧ OneWaits renewing ↔
      Undisturbed renewing ∧ machine.Run Unhurried renewing renewed) :=
  arms_current_iff (Machine.run_of_exec (Option.some_get _).symm)

/-- The connection is removed and added again before the handler of its wait has run. -/
def hurried : CurlMulti :=
  (machine.exec Machine.Free boot [.openSocketCallback .ipcxn .inet (some 5),
    .socketCallback 5 CURL_POLL_IN .none none, .complete 0 .ok,
    .socketCallback 5 CURL_POLL_REMOVE .none none,
    .socketCallback 5 CURL_POLL_IN .none none]).get (by decide)

example : hurried.Standing 0 .pollIn 0 ∧ hurried.Standing 0 .pollIn 1 := by decide

end CurlMulti

end AmxxCurl
