/-
Where waits come from, and what the armed flags say of them.

`ArmWaits` has two callers: `SetSock`, when libcurl asks for something, and the handler
of a wait, when it renews what libcurl wants.  An action calls it once at most, and
`armCall` is that call, with the state it is made in.  Every wait ever started is
started by one of these calls; apart from them a step leaves the waits what they are,
and only finishes, cancels or dispatches some.

The armed flags are read off the waits: by `Tracking` a flag is set iff a wait of its
direction is on its way to a handler that will clear it.
-/
import AmxxCurl.Multi.Reports

namespace AmxxCurl

namespace CurlMulti

variable {m m' : CurlMulti} {a : Action} {tr : List Action}

/-! ### The armed flags -/

/-- A wait of this direction, bound to `sd`, that its handler has still to be called for. -/
def Bound (m : CurlMulti) (sd : SocketDataId) (dir : Dir) (w : WaitId) : Prop :=
  (m.wait w).outstanding = true ∧ (m.wait w).sd = sd ∧ (m.wait w).dir = dir

theorem Bound.unique (ht : Tracking m) {sd : SocketDataId} {dir : Dir} {w w' : Nat}
    (h : m.Bound sd dir w) (h' : m.Bound sd dir w') : w = w' := by
  obtain ⟨hout, hsd, hdir⟩ := h
  obtain ⟨hout', hsd', hdir'⟩ := h'
  have hle : w ≤ w' := ht.latest hout' (ht.waitLt hout).1 (hsd.trans hsd'.symm)
    (hdir.trans hdir'.symm)
  have hge : w' ≤ w := ht.latest hout (ht.waitLt hout').1 (hsd'.trans hsd.symm)
    (hdir'.trans hdir.symm)
  exact Nat.le_antisymm hle hge

/-- The handler of a wait clears its flag, whichever return it takes. -/
theorem dispatch_clears {w : Nat} (hn : m.next (.dispatch w) = some m') :
    (m'.data (m.wait w).sd).armed (m.wait w).dir = false := by
  cases next_fires hn with
  | dispatch _ r hidle hst =>
      have hclear : ((m.socketData.modify (m.wait w).sd fun d =>
          d.setArmed (m.wait w).dir false).cell (m.wait w).sd).armed (m.wait w).dir = false := by
        rw [Heap.modify_cell_self, Tracking.armed_setArmed, if_pos rfl]
      unfold asioSocketActionCallback
      dsimp only
      repeat' split
      all_goals exact hclear

/--
**The armed flags mirror the outstanding waits.**  In every state a flag is set iff exactly
one wait of its direction is outstanding for its object, and clear iff none is; what a set
flag stands for is a wait whose handler clears it.
-/
theorem armed_mirrors_waits {C : CurlMulti → Action → Prop} (h : machine.Run C tr m)
    (sd : SocketDataId) (dir : Dir) :
    ((m.data sd).armed dir = true ↔ ∃! w : WaitId, m.Bound sd dir w) ∧
    ((m.data sd).armed dir = false ↔ ∀ w : WaitId, ¬m.Bound sd dir w) ∧
    ((m.data sd).armed dir = true → ∃ w : WaitId, m.Bound sd dir w ∧
      ∀ m', m.next (.dispatch w) = some m' → (m'.data sd).armed dir = false) := by
  have ht := tracking h
  have hiff : (m.data sd).armed dir = true ↔ ∃ w, m.Bound sd dir w := ht.armedIff sd dir
  refine ⟨?_, ?_, ?_⟩
  · rw [hiff]
    constructor
    · intro ⟨w, hw⟩
      exact ⟨w, hw, fun w' hw' => hw'.unique ht hw⟩
    · intro ⟨w, hw, _⟩
      exact ⟨w, hw⟩
  · rw [← Bool.not_eq_true, hiff, not_exists]
  · intro harmed
    obtain ⟨w, hw⟩ := hiff.mp harmed
    refine ⟨w, hw, fun m' hn => ?_⟩
    have hclear := dispatch_clears hn
    rwa [hw.2.1, hw.2.2] at hclear

/--
A connection is armed for both directions; REMOVE cancels the waits, and the socket is added
again before their handlers have run.
-/
def readded : CurlMulti :=
  (machine.exec Machine.Free boot [.openSocketCallback .ipcxn .inet (some 5),
    .socketCallback 5 CURL_POLL_INOUT .none none,
    .socketCallback 5 CURL_POLL_REMOVE .none none,
    .socketCallback 5 CURL_POLL_IN .none none]).get (by decide)

theorem armed_mirrors_waits_readded :
    (∃! w : WaitId, readded.Bound 0 .pollOut w) ∧ ∀ w : WaitId, ¬readded.Bound 1 .pollOut w := by
  have hrun : machine.Run Machine.Free _ readded := Machine.run_of_exec (Option.some_get _).symm
  exact ⟨(armed_mirrors_waits hrun 0 .pollOut).1.mp (by decide),
    (armed_mirrors_waits hrun 1 .pollOut).2.1.mp (by decide)⟩

/-! ### The calls of `ArmWaits` -/

/-- A call of `ArmWaits`: the state it is made in and its arguments. -/
structure ArmCall where
  state : CurlMulti
  act : CInt
  s : Fd
  sd : SocketDataId
  o : SockId
  oom : Option Dir

/-- What the call leaves behind. -/
def ArmCall.after (c : ArmCall) : CurlMulti := (c.state.armWaits c.act c.s c.sd c.o c.oom).1

/-- The `SocketData` a request for `s` is for: the tracked one, or a new one. -/
def requested (m : CurlMulti) (s : Fd) (refusal : Kernel.Refusal) :
    CurlMulti × Option SocketDataId :=
  match m.socketDataMap.lookup s with
  | some sd => (m, some sd)
  | none => m.addSocket s refusal

/-- The call `SetSock` makes. -/
def setSockCall (m : CurlMulti) (act : CInt) (s : Fd) (sd : SocketDataId) (oom : Option Dir) :
    Option ArmCall :=
  if m.curlMulti then (m.socketMap.lookup s).map fun o => ⟨m, act, s, sd, o, oom⟩ else none

/-- The call of the handler that renews what libcurl wants. -/
def rearmCall (m : CurlMulti) (s : Fd) (sd : SocketDataId) (error : Bool) (oom : Option Dir) :
    Option ArmCall :=
  let m := if m.runningHandles ≤ 0 then m.cancelTimer else m
  if error = false ∧ s ∉ m.removedSockets ∧ (m.socketDataMap.lookup s).isSome then
    (m.socketMap.lookup s).map fun o => ⟨m, (m.socketData.cell sd).previousAction, s, sd, o, oom⟩
  else none

/-- The call of `ArmWaits` an action makes, if it makes one. -/
def armCall (m : CurlMulti) : Action → Option ArmCall
  | .socketCallback s what refusal oom =>
      if what = CURL_POLL_REMOVE ∨ what = CURL_POLL_NONE then none
      else
        (m.requested s refusal).2.bind fun sd =>
          (m.requested s refusal).1.setSockCall what s sd oom
  | .checkMultiInfoReturn oom =>
      match m.handler with
      | some (.socket _ s sd error .inCheckMultiInfo) => m.rearmCall s sd error oom
      | _ => none
  | _ => none

/-- `setSock` is its call, and then the request is recorded if the call did not throw. -/
theorem setSock_call (m : CurlMulti) (act : CInt) (s : Fd) (sd : SocketDataId)
    (oom : Option Dir) :
    (m.setSockCall act s sd oom = none ∧ m.setSock act s sd oom = (m, .ok ())) ∨
    ∃ c, m.setSockCall act s sd oom = some c ∧ c.state = m ∧ c.act = act ∧ c.s = s ∧ c.sd = sd ∧
      m.socketMap.lookup s = some c.o ∧
      ((∃ e, m.setSock act s sd oom = (c.after, .error e)) ∨
        m.setSock act s sd oom = ({ c.after with
          socketData := c.after.socketData.modify sd fun d => { d with previousAction := act } },
          .ok ())) := by
  unfold setSockCall setSock
  cases halive : m.curlMulti with
  | false => exact Or.inl ⟨rfl, rfl⟩
  | true =>
      cases ho : m.socketMap.lookup s with
      | none => exact Or.inl ⟨rfl, rfl⟩
      | some o =>
          refine Or.inr ⟨⟨m, act, s, sd, o, oom⟩, rfl, rfl, rfl, rfl, rfl, rfl, ?_⟩
          dsimp only [ArmCall.after]
          rw [if_neg (by simp)]
          split
          · rename_i m₁ e he
            exact Or.inl ⟨e, by rw [he]⟩
          · rename_i m₁ he
            exact Or.inr (by rw [he])

/-- `rearm` is its call, after the timer has been seen to. -/
theorem rearm_call (m : CurlMulti) (s : Fd) (sd : SocketDataId) (error : Bool)
    (oom : Option Dir) :
    (m.rearmCall s sd error oom = none ∧
      m.rearm s sd error oom =
        ((if m.runningHandles ≤ 0 then m.cancelTimer else m), .ok ())) ∨
    ∃ c, m.rearmCall s sd error oom = some c ∧
      c.state = (if m.runningHandles ≤ 0 then m.cancelTimer else m) ∧
      c.act = (m.data sd).previousAction ∧ c.s = s ∧ c.sd = sd ∧ error = false ∧
      s ∉ m.removedSockets ∧ (m.socketDataMap.lookup s).isSome ∧
      m.socketMap.lookup s = some c.o ∧ (m.rearm s sd error oom).1 = c.after := by
  have hsame : ∀ {m₁ : CurlMulti}, m₁ = (if m.runningHandles ≤ 0 then m.cancelTimer else m) →
      m₁.removedSockets = m.removedSockets ∧ m₁.socketDataMap = m.socketDataMap ∧
        m₁.socketMap = m.socketMap ∧ m₁.socketData = m.socketData := by
    intro m₁ he
    rw [he]
    split <;> exact ⟨rfl, rfl, rfl, rfl⟩
  unfold rearmCall rearm
  dsimp only
  generalize hm : (if m.runningHandles ≤ 0 then m.cancelTimer else m) = m₁ at hsame ⊢
  obtain ⟨hremoved, hdata, hsock, hsd⟩ := hsame rfl
  cases ho : m₁.socketMap.lookup s with
  | none =>
      refine Or.inl ⟨?_, rfl⟩
      split <;> rfl
  | some o =>
      by_cases hgo : error = false ∧ s ∉ m₁.removedSockets ∧ (m₁.socketDataMap.lookup s).isSome
      · rw [if_pos hgo]
        refine Or.inr ⟨⟨m₁, (m₁.socketData.cell sd).previousAction, s, sd, o, oom⟩, rfl, rfl, ?_,
          rfl, rfl, hgo.1, ?_, ?_, ?_, ?_⟩
        · rw [data, hsd]
        · rw [← hremoved]
          exact hgo.2.1
        · rw [← hdata]
          exact hgo.2.2
        · rw [← hsock]
          exact ho
        · have hgo' : (!error) = true ∧ s ∉ m₁.removedSockets ∧
              (m₁.socketDataMap.lookup s).isSome := ⟨by simp [hgo.1], hgo.2⟩
          dsimp only
          rw [if_pos hgo']
          rfl
      · rw [if_neg hgo]
        refine Or.inl ⟨rfl, ?_⟩
        have hgo' : ¬((!error) = true ∧ s ∉ m₁.removedSockets ∧
            (m₁.socketDataMap.lookup s).isSome) :=
          fun hc => hgo ⟨by simpa using hc.1, hc.2⟩
        dsimp only
        rw [if_neg hgo']

/-! ### What a step does to the waits -/

/-- No wait is started or dispatched, and the ones there are stay bound as they were. -/
structure Rests (a a' : Asio) : Prop where
  next_eq : a'.waits.next = a.waits.next
  bound : ∀ w : Nat, (a'.waits.cell w).dir = (a.waits.cell w).dir ∧
    (a'.waits.cell w).sd = (a.waits.cell w).sd ∧ (a'.waits.cell w).sock = (a.waits.cell w).sock
  fd : ∀ w : Nat, (a'.waits.cell w).fd = (a.waits.cell w).fd
  outstanding : ∀ w : Nat, (a'.waits.cell w).outstanding = (a.waits.cell w).outstanding
  /-- What is cancelled stays so. -/
  cancelled : ∀ w : Nat, (a'.waits.cell w).cancelled = false → (a.waits.cell w).cancelled = false

namespace Rests

theorem of_eq {a a' : Asio} (h : a'.waits = a.waits) : Rests a a' :=
  ⟨by rw [h], fun w => by rw [h]; exact ⟨rfl, rfl, rfl⟩, fun w => by rw [h],
    fun w => by rw [h], fun w => by rw [h]; exact id⟩

theorem trans {a a' a'' : Asio} (h : Rests a a') (h' : Rests a' a'') : Rests a a'' where
  next_eq := h'.next_eq.trans h.next_eq
  bound := by
    intro w
    obtain ⟨hdir, hsd, hsock⟩ := h.bound w
    obtain ⟨hdir', hsd', hsock'⟩ := h'.bound w
    exact ⟨hdir'.trans hdir, hsd'.trans hsd, hsock'.trans hsock⟩
  fd := fun w => (h'.fd w).trans (h.fd w)
  outstanding := fun w => (h'.outstanding w).trans (h.outstanding w)
  cancelled := fun w hw => h.cancelled w (h'.cancelled w hw)

theorem of_cancels {o : SockId} {a a' : Asio} (h : Asio.Cancels o a a') : Rests a a' where
  next_eq := h.waits_next
  bound := by
    intro w
    rcases h.cell w with he | ⟨-, he⟩ <;> rw [he] <;> exact ⟨rfl, rfl, rfl⟩
  fd := by
    intro w
    rcases h.cell w with he | ⟨-, he⟩ <;> rw [he]
  outstanding := by
    intro w
    rcases h.cell w with he | ⟨-, he⟩
    · rw [he]
    · rw [he]
      rfl
  cancelled := by
    intro w hw
    rcases h.cell w with he | ⟨-, he⟩
    · rwa [he] at hw
    · rw [he] at hw
      simp at hw

theorem of_complete {a a' : Asio} {w : Nat} {r : WaitResult} (h : a.complete w r = some a') :
    Rests a a' := by
  unfold Asio.complete at h
  split at h
  · rename_i hc
    obtain rfl := Option.some.inj h
    refine ⟨rfl, fun w' => ?_, fun w' => ?_, fun w' => ?_, fun w' => ?_⟩
    all_goals by_cases he : w' = w
    · subst he
      simp only [Heap.modify_cell_self, and_self]
    · simp only [Heap.modify_cell_ne _ _ he, and_self]
    · subst he
      simp only [Heap.modify_cell_self]
    · simp only [Heap.modify_cell_ne _ _ he]
    · subst he
      simp only [Heap.modify_cell_self, Wait.outstanding, hc.2.1]
    · simp only [Heap.modify_cell_ne _ _ he]
    · subst he
      simp only [Heap.modify_cell_self]
      exact id
    · simp only [Heap.modify_cell_ne _ _ he]
      exact id
  · simp at h

end Rests

theorem printUnlessDetached_asio (m : CurlMulti) : m.printUnlessDetached.asio = m.asio := by
  unfold printUnlessDetached
  split <;> rfl

theorem addSocket_rests (m : CurlMulti) (s : Fd) (refusal : Kernel.Refusal) :
    Rests m.asio (m.addSocket s refusal).1.asio := by
  unfold addSocket
  split
  · exact .of_eq rfl
  · dsimp only
    split
    · refine .of_eq ?_
      show ({ m with socketData := _ } : CurlMulti).printUnlessDetached.asio.waits = _
      rw [printUnlessDetached_asio]
    · rename_i a o ha
      exact .of_eq (Asio.assignSocket_spec ha).2.2

theorem requested_rests (m : CurlMulti) (s : Fd) (refusal : Kernel.Refusal) :
    Rests m.asio (m.requested s refusal).1.asio := by
  unfold requested
  split
  · exact .of_eq rfl
  · exact m.addSocket_rests s refusal

theorem removeSocket_rests (m : CurlMulti) (s : Fd) (sd : SocketDataId) :
    Rests m.asio (m.removeSocket s sd).1.asio := by
  unfold removeSocket
  split
  · exact .of_eq rfl
  · rename_i o _
    split
    · split
      · exact .of_eq rfl
      · rename_i a ha
        exact .of_cancels (Asio.cancels_release ha)
    · exact .of_cancels (Asio.cancels_cancel ..)

theorem destroySocket_rests (m : CurlMulti) (o : SockId) :
    Rests m.asio (m.destroySocket o).asio := by
  rw [(Tracking.destroySocket_asio m o).1]
  exact .of_cancels (Asio.cancels_destroy ..)

theorem evictStale_rests (m : CurlMulti) (s : Fd) (o : SockId) :
    Rests m.asio (m.evictStale s o).1.asio := by
  unfold evictStale
  split
  · exact .of_eq rfl
  · split
    · exact m.destroySocket_rests o
    · rename_i a ha
      rw [printUnlessDetached_asio]
      exact .of_cancels (Asio.cancels_release ha)

theorem curlOpenSocketCallback_rests (m : CurlMulti) (purpose : SockType) (family : Family)
    (reply : Option Fd) : Rests m.asio (m.curlOpenSocketCallback purpose family reply).1.asio := by
  unfold curlOpenSocketCallback
  split
  · split
    · exact .of_eq rfl
    · rename_i s
      split
      · exact .of_eq rfl
      · rename_i a o ha
        have hopen : Rests m.asio a := .of_eq (Asio.openSocket_spec ha).2.2
        have hev := hopen.trans (({ m with asio := a } : CurlMulti).evictStale_rests s o)
        split
        · rename_i m₁ e he
          rw [he] at hev
          exact hev
        · rename_i m₁ he
          rw [he] at hev
          refine hev.trans ?_
          show Rests m₁.asio (m₁.emplaceSocket s o).asio
          unfold emplaceSocket
          split
          · exact m₁.destroySocket_rests o
          · exact .of_eq rfl
  · exact .of_eq rfl

theorem curlCloseSocketCallback_rests (m : CurlMulti) (s : Fd) :
    Rests m.asio (m.curlCloseSocketCallback s).asio := by
  unfold curlCloseSocketCallback
  dsimp only
  split
  · exact .of_eq rfl
  · exact m.destroySocket_rests _

/-- The step from `m` to `m'` starts its waits in the call `c`. -/
structure Through (m m' : CurlMulti) (c : ArmCall) : Prop where
  rests : Rests m.asio c.state.asio
  asio : m'.asio = c.after.asio
  socketMap : m'.socketMap = c.state.socketMap
  socketDataMap : m'.socketDataMap = c.state.socketDataMap

/-- A wait that `armDir` starts is for the direction, if that is wanted and not armed. -/
theorem armDir_new {act : CInt} {s : Fd} {sd : SocketDataId} {o : SockId} {oom : Option Dir}
    {dir : Dir} {w : Nat} (hle : m.asio.waits.next ≤ w)
    (hlt : w < (m.armDir act s sd o oom dir).1.asio.waits.next) :
    (m.armDir act s sd o oom dir).1.wait w = ⟨dir, s, sd, o, false, .pending⟩ ∧
      wants act dir = true ∧ (m.data sd).armed dir = false := by
  unfold armDir at hlt ⊢
  by_cases hc : (wants act dir && !(m.socketData.cell sd).armed dir) = true
  · rw [if_pos hc] at hlt ⊢
    by_cases hoom : oom = some dir
    · rw [if_pos hoom] at hlt
      exact absurd hlt (Nat.not_lt.mpr hle)
    · rw [if_neg hoom] at hlt ⊢
      obtain rfl : w = m.asio.waits.next := Nat.le_antisymm (Nat.lt_succ_iff.mp hlt) hle
      simp only [Bool.and_eq_true, Bool.not_eq_true'] at hc
      exact ⟨Heap.alloc_cell_next .., hc⟩
  · rw [if_neg hc] at hlt
    exact absurd hlt (Nat.not_lt.mpr hle)

/-- The waits a call starts are bound to its arguments, for directions it wants. -/
theorem ArmCall.new (c : ArmCall) {w : Nat} (hle : c.state.asio.waits.next ≤ w)
    (hlt : w < c.after.asio.waits.next) :
    ∃ dir, c.after.wait w = ⟨dir, c.s, c.sd, c.o, false, .pending⟩ ∧ wants c.act dir = true ∧
      (c.state.data c.sd).armed dir = false := by
  unfold ArmCall.after armWaits at hlt ⊢
  split at hlt
  · rename_i m₁ e he
    have hfst : (c.state.armDir c.act c.s c.sd c.o c.oom .pollIn).1 = m₁ := by rw [he]
    dsimp only at hlt ⊢
    rw [← hfst] at hlt ⊢
    exact ⟨.pollIn, armDir_new hle hlt⟩
  · rename_i m₁ he
    have hfst : (c.state.armDir c.act c.s c.sd c.o c.oom .pollIn).1 = m₁ := by rw [he]
    by_cases hmid : w < m₁.asio.waits.next
    · have harms : Arms c.sd m₁ (m₁.armDir c.act c.s c.sd c.o c.oom .pollOut).1 := armDir_arms
      rw [harms.old w hmid]
      rw [← hfst] at hmid ⊢
      exact ⟨.pollIn, armDir_new hle hmid⟩
    · -- the flag of the second direction was clear before the first was armed
      have hin : Arms c.sd c.state m₁ := by
        rw [← hfst]
        exact armDir_arms
      obtain ⟨hnew, hwants, hclear⟩ := armDir_new (Nat.le_of_not_lt hmid) hlt
      refine ⟨.pollOut, hnew, hwants, Bool.eq_false_iff.mpr fun harmed => ?_⟩
      rw [hin.armed .pollOut harmed] at hclear
      exact absurd hclear (by decide)

theorem ArmCall.arms (c : ArmCall) : Arms c.sd c.state c.after := armWaits_arms

/-- What `CurlSocketCallback` makes of a request for a number that cannot be wrapped. -/
theorem request_none {s : Fd} {what : CInt} {refusal : Kernel.Refusal} {oom : Option Dir}
    (hwhat : what ≠ CURL_POLL_REMOVE) (hsd : (m.requested s refusal).2 = none) :
    m.curlSocketCallback s what refusal oom = ((m.requested s refusal).1, .ok ()) := by
  unfold requested at hsd ⊢
  unfold curlSocketCallback
  rw [if_neg hwhat]
  dsimp only
  cases hs : m.socketDataMap.lookup s with
  | some sd =>
      rw [hs] at hsd
      simp at hsd
  | none =>
      rw [hs] at hsd
      dsimp only at hsd ⊢
      split
      · rename_i m₁ he
        rw [he]
      · rename_i m₁ sd he
        rw [he] at hsd
        simp at hsd

/-- And of any other that is no REMOVE. -/
theorem request_some {s : Fd} {what : CInt} {refusal : Kernel.Refusal} {sd : SocketDataId}
    (oom : Option Dir) (hwhat : what ≠ CURL_POLL_REMOVE)
    (hsd : (m.requested s refusal).2 = some sd) :
    m.curlSocketCallback s what refusal oom =
      if what = CURL_POLL_NONE then ((m.requested s refusal).1, .ok ())
      else (m.requested s refusal).1.setSock what s sd oom := by
  unfold requested at hsd ⊢
  unfold curlSocketCallback
  rw [if_neg hwhat]
  dsimp only
  cases hs : m.socketDataMap.lookup s with
  | some sd' =>
      rw [hs] at hsd
      obtain rfl := Option.some.inj hsd
      rfl
  | none =>
      rw [hs] at hsd
      dsimp only at hsd ⊢
      split
      · rename_i m₁ he
        rw [he] at hsd
        simp at hsd
      · rename_i m₁ sd' he
        rw [he] at hsd ⊢
        obtain rfl := Option.some.inj hsd
        rfl

theorem static_same (m : CurlMulti) (s : Fd) (what : CInt) (refusal : Kernel.Refusal)
    (oom : Option Dir) :
    (m.curlSocketCallbackStatic s what refusal oom).1.asio =
        (m.curlSocketCallback s what refusal oom).1.asio ∧
      (m.curlSocketCallbackStatic s what refusal oom).1.socketMap =
        (m.curlSocketCallback s what refusal oom).1.socketMap ∧
      (m.curlSocketCallbackStatic s what refusal oom).1.socketDataMap =
        (m.curlSocketCallback s what refusal oom).1.socketDataMap ∧
      (m.curlSocketCallbackStatic s what refusal oom).1.socketData =
        (m.curlSocketCallback s what refusal oom).1.socketData := by
  unfold curlSocketCallbackStatic
  split
  · rename_i m₁ he
    rw [he]
    exact ⟨rfl, rfl, rfl, rfl⟩
  · rename_i m₁ e he
    rw [he]
    unfold printUnlessDetached
    split <;> exact ⟨rfl, rfl, rfl, rfl⟩

theorem socketCallback_calls (m : CurlMulti) (s : Fd) (what : CInt) (refusal : Kernel.Refusal)
    (oom : Option Dir) :
    (m.armCall (.socketCallback s what refusal oom) = none ∧
      Rests m.asio (m.curlSocketCallbackStatic s what refusal oom).1.asio) ∨
    ∃ c, m.armCall (.socketCallback s what refusal oom) = some c ∧
      Through m (m.curlSocketCallbackStatic s what refusal oom).1 c := by
  obtain ⟨hasio, hsock, hdata, -⟩ :=
    m.static_same s what refusal oom
  have hrequested := m.requested_rests s refusal
  by_cases hremove : what = CURL_POLL_REMOVE
  · refine Or.inl ⟨if_pos (Or.inl hremove), ?_⟩
    rw [hasio]
    unfold curlSocketCallback
    rw [if_pos hremove]
    split
    · exact .of_eq rfl
    · exact m.removeSocket_rests s _
  · by_cases hnone : what = CURL_POLL_NONE
    · refine Or.inl ⟨if_pos (Or.inr hnone), ?_⟩
      rw [hasio]
      cases hsd : (m.requested s refusal).2 with
      | none =>
          rw [request_none hremove hsd]
          exact hrequested
      | some sd =>
          rw [request_some oom hremove hsd, if_pos hnone]
          exact hrequested
    · have hcall : m.armCall (.socketCallback s what refusal oom) =
          (m.requested s refusal).2.bind fun sd =>
            (m.requested s refusal).1.setSockCall what s sd oom :=
        if_neg (not_or.mpr ⟨hremove, hnone⟩)
      rw [hcall]
      cases hsd : (m.requested s refusal).2 with
      | none =>
          refine Or.inl ⟨rfl, ?_⟩
          rw [hasio, request_none hremove hsd]
          exact hrequested
      | some sd =>
          have heq := request_some oom hremove hsd
          rw [if_neg hnone] at heq
          rw [Option.bind_some]
          rcases (m.requested s refusal).1.setSock_call what s sd oom with
            ⟨hno, hset⟩ | ⟨c, hc, hstate, -, -, -, -, hset⟩
          · refine Or.inl ⟨hno, ?_⟩
            rw [hasio, heq, hset]
            exact hrequested
          · refine Or.inr ⟨c, hc, ?_⟩
            have harms := c.arms
            have hafter : (m.curlSocketCallback s what refusal oom).1.asio = c.after.asio ∧
                (m.curlSocketCallback s what refusal oom).1.socketMap = c.after.socketMap ∧
                (m.curlSocketCallback s what refusal oom).1.socketDataMap =
                  c.after.socketDataMap := by
              rw [heq]
              rcases hset with ⟨e, hset⟩ | hset <;> rw [hset] <;> exact ⟨rfl, rfl, rfl⟩
            refine ⟨by rw [hstate]; exact hrequested, hasio.trans hafter.1, ?_, ?_⟩
            · exact (hsock.trans hafter.2.1).trans harms.socketMap
            · exact (hdata.trans hafter.2.2).trans harms.socketDataMap

theorem checkMultiInfoReturn_calls {oom : Option Dir}
    (hn : m.next (.checkMultiInfoReturn oom) = some m') :
    (m.armCall (.checkMultiInfoReturn oom) = none ∧ Rests m.asio m'.asio) ∨
    ∃ c, m.armCall (.checkMultiInfoReturn oom) = some c ∧ Through m m' c := by
  unfold armCall
  cases next_fires hn with
  | socketReturn _ dir s sd error hh =>
      rw [hh]
      dsimp only
      have hcatch := Apart.pollCatch (m.rearm s sd error oom)
      have hstop := Apart.stopTimer m
      rcases m.rearm_call s sd error oom with
        ⟨hno, hrearm⟩ | ⟨c, hc, hstate, -, -, -, -, -, -, -, hrearm⟩
      · refine Or.inl ⟨hno, .of_eq ?_⟩
        rw [hcatch.asio, hrearm, hstop.asio]
      · have harms := c.arms
        rw [hrearm] at hcatch
        refine Or.inr ⟨c, hc, .of_eq ?_, hcatch.asio, hcatch.socketMap.trans harms.socketMap,
          hcatch.socketDataMap.trans harms.socketDataMap⟩
        rw [hstate, hstop.asio]
  | timerReturn _ hh =>
      rw [hh]
      exact Or.inl ⟨rfl, .of_eq rfl⟩

/-- **A step starts waits in its call of `ArmWaits` and nowhere else**, and a dispatch starts
none. -/
theorem next_calls (hn : m.next a = some m') :
    (m.armCall a = none ∧ Rests m.asio m'.asio) ∨
    (∃ c, m.armCall a = some c ∧ Through m m' c) ∨
    ∃ w r, a = .dispatch w ∧ (m.wait w).status = .completed r ∧
      m'.asio = m.asio.markDispatched w r := by
  cases next_fires hn with
  | socketCallback s what refusal oom =>
      exact (m.socketCallback_calls s what refusal oom).imp_right Or.inl
  | socketReturn oom dir s sd error hh => exact (checkMultiInfoReturn_calls hn).imp_right Or.inl
  | timerReturn oom hh => exact (checkMultiInfoReturn_calls hn).imp_right Or.inl
  | openSocketCallback purpose family reply hfree =>
      exact Or.inl ⟨rfl, m.curlOpenSocketCallback_rests purpose family reply⟩
  | closeSocketCallback s => exact Or.inl ⟨rfl, m.curlCloseSocketCallback_rests s⟩
  | complete w r asio ha => exact Or.inl ⟨rfl, .of_complete ha⟩
  | dispatch w r hidle hst =>
      exact Or.inr (Or.inr ⟨w, r, rfl, hst, asioSocketActionCallback_asio⟩)
  | foreignOpen s hfree => exact Or.inl ⟨rfl, .of_eq rfl⟩
  | foreignClose s => exact Or.inl ⟨rfl, .of_eq rfl⟩
  | _ => exact Or.inl ⟨rfl, .of_eq (congrArg Asio.waits (next_apart hn not_false).asio)⟩

/-- Where a wait that is outstanding after a step comes from. -/
theorem next_outstanding (ht' : Tracking m') (hn : m.next a = some m') {w : Nat}
    (hout : (m'.wait w).outstanding = true) :
    (m.wait w).outstanding = true ∧ (m'.wait w).dir = (m.wait w).dir ∧
        (m'.wait w).sd = (m.wait w).sd ∧ (m'.wait w).sock = (m.wait w).sock ∨
    m.asio.waits.next ≤ w ∧ ∃ c dir, m.armCall a = some c ∧ Through m m' c ∧
      m'.wait w = ⟨dir, c.s, c.sd, c.o, false, .pending⟩ ∧ wants c.act dir = true := by
  rcases next_calls hn with ⟨-, hrests⟩ | ⟨c, hc, hthrough⟩ | ⟨w', r, -, hst, hasio⟩
  · obtain ⟨hdir, hsd, hsock⟩ := hrests.bound w
    exact Or.inl ⟨(hrests.outstanding w).symm.trans hout, hdir, hsd, hsock⟩
  · have hcell : m'.wait w = c.after.wait w := by rw [wait, hthrough.asio]
    have harms := c.arms
    by_cases hold : w < c.state.asio.waits.next
    · have hsame : m'.wait w = c.state.wait w := hcell.trans (harms.old w hold)
      obtain ⟨hdir, hsd, hsock⟩ := hthrough.rests.bound w
      rw [hsame] at hout
      refine Or.inl ⟨(hthrough.rests.outstanding w).symm.trans hout, ?_, ?_, ?_⟩
      · rw [hsame, hdir]
      · rw [hsame, hsd]
      · rw [hsame, hsock]
    · have hlt : w < c.after.asio.waits.next := by
        rw [← hthrough.asio]
        exact (ht'.waitLt hout).1
      obtain ⟨dir, hnew, hwants, -⟩ := c.new (Nat.le_of_not_lt hold) hlt
      refine Or.inr ⟨?_, c, dir, hc, hthrough, hcell.trans hnew, hwants⟩
      rw [← hthrough.rests.next_eq]
      exact Nat.le_of_not_lt hold
  · by_cases he : w = w'
    · subst he
      rw [wait, hasio, Wait.outstanding, m.asio.markDispatched_self] at hout
      simp at hout
    · have hcell : m'.wait w = m.wait w := by
        rw [wait, hasio]
        exact m.asio.markDispatched_ne _ he
      rw [hcell] at hout ⊢
      exact Or.inl ⟨hout, rfl, rfl, rfl⟩

/-! ### The handler on the stack -/

/-- What has nothing to do with sockets: the handler on the stack and the timer. -/
structure Aside (m m' : CurlMulti) : Prop where
  handler : m'.handler = m.handler
  runningHandles : m'.runningHandles = m.runningHandles
  timer : m'.timer = m.timer
  posted : m'.posted = m.posted

namespace Aside

variable {m'' : CurlMulti}

theorem refl (m : CurlMulti) : Aside m m := ⟨rfl, rfl, rfl, rfl⟩

theorem trans (h : Aside m m') (h' : Aside m' m'') : Aside m m'' :=
  ⟨h'.handler.trans h.handler, h'.runningHandles.trans h.runningHandles, h'.timer.trans h.timer,
    h'.posted.trans h.posted⟩

theorem printUnlessDetached (m : CurlMulti) : Aside m m.printUnlessDetached := by
  unfold CurlMulti.printUnlessDetached
  split <;> exact ⟨rfl, rfl, rfl, rfl⟩

theorem destroySocket (m : CurlMulti) (o : SockId) : Aside m (m.destroySocket o) := by
  unfold CurlMulti.destroySocket
  dsimp only
  split
  · exact ⟨rfl, rfl, rfl, rfl⟩
  · split <;> exact ⟨rfl, rfl, rfl, rfl⟩

theorem armDir {act : CInt} {s : Fd} {sd : SocketDataId} {o : SockId} {oom : Option Dir}
    {dir : Dir} : Aside m (m.armDir act s sd o oom dir).1 := by
  unfold CurlMulti.armDir
  split
  · split <;> exact ⟨rfl, rfl, rfl, rfl⟩
  · exact refl m

theorem armWaits {act : CInt} {s : Fd} {sd : SocketDataId} {o : SockId} {oom : Option Dir} :
    Aside m (m.armWaits act s sd o oom).1 := by
  have hin : Aside m (m.armDir act s sd o oom .pollIn).1 := armDir
  unfold CurlMulti.armWaits
  split
  · rename_i m₁ e he
    rw [he] at hin
    exact hin
  · rename_i m₁ he
    rw [he] at hin
    exact hin.trans armDir

theorem setSock {act : CInt} {s : Fd} {sd : SocketDataId} {oom : Option Dir} :
    Aside m (m.setSock act s sd oom).1 := by
  rcases m.setSock_call act s sd oom with ⟨-, hset⟩ | ⟨c, -, hstate, -, -, -, -, hset⟩
  · rw [hset]
    exact refl m
  · have hafter : Aside m c.after := by
      rw [← hstate]
      exact armWaits
    rcases hset with ⟨e, hset⟩ | hset <;> rw [hset]
    · exact hafter
    · exact hafter.trans ⟨rfl, rfl, rfl, rfl⟩

theorem curlSocketCallback (m : CurlMulti) (s : Fd) (what : CInt) (refusal : Kernel.Refusal)
    (oom : Option Dir) : Aside m (m.curlSocketCallbackStatic s what refusal oom).1 := by
  have hcallback : Aside m (m.curlSocketCallback s what refusal oom).1 := by
    by_cases hwhat : what = CURL_POLL_REMOVE
    · unfold CurlMulti.curlSocketCallback
      rw [if_pos hwhat]
      split
      · exact refl m
      · unfold CurlMulti.removeSocket
        dsimp only
        repeat' split
        all_goals exact ⟨rfl, rfl, rfl, rfl⟩
    · have hrequested : Aside m (m.requested s refusal).1 := by
        unfold requested
        split
        · exact refl m
        · unfold CurlMulti.addSocket
          split
          · exact ⟨rfl, rfl, rfl, rfl⟩
          · dsimp only
            split
            · have hprint := printUnlessDetached
                { m with socketData := m.socketData.alloc { isAresSocket := true } }
              exact ⟨hprint.handler, hprint.runningHandles, hprint.timer, hprint.posted⟩
            · exact ⟨rfl, rfl, rfl, rfl⟩
      cases hsd : (m.requested s refusal).2 with
      | none =>
          rw [request_none hwhat hsd]
          exact hrequested
      | some sd =>
          rw [request_some oom hwhat hsd]
          split
          · exact hrequested
          · exact hrequested.trans setSock
  unfold CurlMulti.curlSocketCallbackStatic
  split
  · rename_i m₁ he
    rw [he] at hcallback
    exact hcallback
  · rename_i m₁ e he
    rw [he] at hcallback
    exact hcallback.trans (printUnlessDetached m₁)

theorem evictStale (m : CurlMulti) (s : Fd) (o : SockId) : Aside m (m.evictStale s o).1 := by
  unfold CurlMulti.evictStale
  split
  · exact refl m
  · split
    · exact destroySocket m o
    · rename_i asio _
      have hprint := printUnlessDetached { m with
        asio := asio
        socketMap := m.socketMap.erase s
        socketDataMap := m.socketDataMap.erase s }
      exact ⟨hprint.handler, hprint.runningHandles, hprint.timer, hprint.posted⟩

theorem curlOpenSocketCallback (m : CurlMulti) (purpose : SockType) (family : Family)
    (reply : Option Fd) : Aside m (m.curlOpenSocketCallback purpose family reply).1 := by
  unfold CurlMulti.curlOpenSocketCallback
  split
  · split
    · exact refl m
    · rename_i s
      split
      · exact refl m
      · rename_i asio o ha
        have hopen : Aside m { m with asio := asio } := ⟨rfl, rfl, rfl, rfl⟩
        have hev := hopen.trans (evictStale { m with asio := asio } s o)
        split
        · rename_i m₁ e he
          rw [he] at hev
          exact hev
        · rename_i m₁ he
          rw [he] at hev
          have hemplace : Aside m₁ (m₁.emplaceSocket s o) := by
            unfold CurlMulti.emplaceSocket
            split
            · exact destroySocket m₁ o
            · exact ⟨rfl, rfl, rfl, rfl⟩
          exact (hev.trans hemplace).trans ⟨rfl, rfl, rfl, rfl⟩
  · exact refl m

theorem curlCloseSocketCallback (m : CurlMulti) (s : Fd) :
    Aside m (m.curlCloseSocketCallback s) := by
  unfold CurlMulti.curlCloseSocketCallback
  dsimp only
  split
  · exact ⟨rfl, rfl, rfl, rfl⟩
  · rename_i o _
    exact (destroySocket m o).trans ⟨rfl, rfl, rfl, rfl⟩

end Aside

theorem curlTimerCallback_handler (m : CurlMulti) (t : Int) :
    (m.curlTimerCallback t).handler = m.handler := by
  unfold curlTimerCallback
  dsimp only
  split
  · rfl
  · split
    · rfl
    · rfl

theorem shutdown_handler (m : CurlMulti) : m.shutdown.handler = m.handler := by
  unfold shutdown
  split
  · rfl
  · rfl

/-- A handler is called by a dispatch, and stays the one it is until it returns. -/
theorem next_handler {dir : Dir} {s : Fd} {sd : SocketDataId} {error : Bool} {phase : Phase}
    (hn : m.next a = some m') (hh : m'.handler = some (.socket dir s sd error phase)) :
    (∃ w, a = .dispatch w) ∨ ∃ phase', m.handler = some (.socket dir s sd error phase') := by
  have hsame : m'.handler = m.handler →
      (∃ w, a = .dispatch w) ∨ ∃ phase', m.handler = some (.socket dir s sd error phase') :=
    fun he => Or.inr ⟨phase, he ▸ hh⟩
  have hpop : ∀ {x : CurlMulti × Except Exn Unit}, (pollCatch x).handler ≠
      some (.socket dir s sd error phase) := by
    intro x
    unfold pollCatch
    split <;> simp
  cases next_fires hn with
  | dispatch w r hidle hst => exact Or.inl ⟨w, rfl⟩
  | socketCallback s what refusal oom =>
      exact hsame (Aside.curlSocketCallback m s what refusal oom).handler
  | openSocketCallback purpose family reply hfree =>
      exact hsame (Aside.curlOpenSocketCallback m purpose family reply).handler
  | closeSocketCallback s => exact hsame (Aside.curlCloseSocketCallback m s).handler
  | timerCallback t => exact hsame (m.curlTimerCallback_handler t)
  | dispatchTimer t r hidle hst =>
      unfold asioTimerCallback at hh
      split at hh
      · exact Or.inr ⟨phase, hh⟩
      · split at hh
        · exact Or.inr ⟨phase, hh⟩
        · simp [push] at hh
  | runPosted hidle hposted =>
      unfold postedTask at hh
      split at hh
      · exact Or.inr ⟨phase, hh⟩
      · simp [push] at hh
  | socketActionReturn running dir' s' sd' error' he =>
      simp only [Option.some.injEq, Handler.socket.injEq] at hh
      obtain ⟨rfl, rfl, rfl, rfl, -⟩ := hh
      exact Or.inr ⟨.inSocketAction, he⟩
  | timerActionReturn running he => simp at hh
  | socketReturn oom dir' s' sd' error' he => exact absurd hh hpop
  | timerReturn oom he => simp at hh
  | checkMultiInfoThrow he => exact absurd hh hpop
  | shutdown hidle => exact hsame m.shutdown_handler
  | _ => exact hsame rfl

end CurlMulti

end AmxxCurl
