/-
What a request of libcurl leaves behind.

`CurlSocketCallback` writes what libcurl wants of a number into the `previous_action` of its
`SocketData`, from which handlers renew their waits, and arms what is wanted and not armed.
It does not always get that far: CURL_POLL_NONE returns before `SetSock`, and an `async_wait`
that throws leaves `SetSock` on the way.  `Records` and `Asks` say how far a request gets,
by the state it finds.
-/
import AmxxCurl.Multi.Maps

namespace AmxxCurl

instance decidableForallDir (p : Dir → Prop) [DecidablePred p] : Decidable (∀ dir, p dir) :=
  decidable_of_iff (p .pollIn ∧ p .pollOut)
    ⟨fun h dir => Dir.casesOn dir h.1 h.2, fun h => ⟨h .pollIn, h .pollOut⟩⟩

/-- `ArmWaits` calls `async_wait` for this direction, which runs out of memory. -/
def SocketData.Throws (d : SocketData) (act : CInt) (oom : Option Dir) (dir : Dir) : Prop :=
  oom = some dir ∧ wants act dir = true ∧ d.armed dir = false

instance (d : SocketData) (act : CInt) (oom : Option Dir) (dir : Dir) :
    Decidable (d.Throws act oom dir) := inferInstanceAs (Decidable (_ ∧ _ ∧ _))

theorem wants_none (dir : Dir) : wants CURL_POLL_NONE dir = false := by
  cases dir <;> rfl

theorem wants_remove (dir : Dir) : wants CURL_POLL_REMOVE dir = false := by
  cases dir <;> rfl

namespace CurlMulti

variable {m m' : CurlMulti} {a : Action} {s : Fd} {sd : SocketDataId} {o : SockId} {act : CInt}
  {dir : Dir} {oom : Option Dir}

/-- What is known of a number when a request for it comes; a new `SocketData` wants nothing. -/
def known (m : CurlMulti) (s : Fd) : SocketData :=
  match m.socketDataMap.lookup s with
  | some sd => m.data sd
  | none => {}

/-- The request gets to the last line of `SetSock`. -/
def Records (m : CurlMulti) (s : Fd) (what : CInt) (oom : Option Dir) : Prop :=
  m.curlMulti = true ∧ what ≠ CURL_POLL_NONE ∧ ∀ dir, ¬(m.known s).Throws what oom dir

/-- The request gets the direction armed; reading comes before writing. -/
def Asks (m : CurlMulti) (s : Fd) (what : CInt) (oom : Option Dir) (dir : Dir) : Prop :=
  m.curlMulti = true ∧ wants what dir = true ∧ ¬(m.known s).Throws what oom .pollIn ∧
    ¬(m.known s).Throws what oom dir

instance (m : CurlMulti) (s : Fd) (what : CInt) (oom : Option Dir) :
    Decidable (m.Records s what oom) := inferInstanceAs (Decidable (_ ∧ _ ∧ _))

instance (m : CurlMulti) (s : Fd) (what : CInt) (oom : Option Dir) (dir : Dir) :
    Decidable (m.Asks s what oom dir) := inferInstanceAs (Decidable (_ ∧ _ ∧ _ ∧ _))

theorem Records.asks {what : CInt} (h : m.Records s what oom) (hw : wants what dir = true) :
    m.Asks s what oom dir := ⟨h.1, hw, h.2.2 .pollIn, h.2.2 dir⟩

theorem known_tracked (hs : m.socketDataMap.lookup s = some sd) : m.known s = m.data sd := by
  unfold known
  rw [hs]

theorem known_none (hs : m.socketDataMap.lookup s = none) : m.known s = {} := by
  unfold known
  rw [hs]

/-! ### `ArmWaits` -/

theorem armDir_throws (h : (m.data sd).Throws act oom dir) :
    m.armDir act s sd o oom dir = (m, .error .badAlloc) := by
  unfold armDir
  rw [if_pos (by simp [h.2.1, h.2.2]), if_pos h.1]

theorem armDir_returns (h : ¬(m.data sd).Throws act oom dir) :
    (m.armDir act s sd o oom dir).2 = .ok () := by
  unfold armDir
  split
  · rename_i hc
    simp only [Bool.and_eq_true, Bool.not_eq_true'] at hc
    rw [if_neg fun hoom => h ⟨hoom, hc⟩]
  · rfl

theorem armDir_other {dir' : Dir} (hne : dir' ≠ dir) :
    ((m.armDir act s sd o oom dir).1.data sd).armed dir' = (m.data sd).armed dir' := by
  unfold armDir
  split
  · split
    · rfl
    · simp only [data, Heap.modify_cell_self, Tracking.armed_setArmed, if_neg hne]
  · rfl

/-- Reading does not change whether the wait for writing throws. -/
theorem armDir_throws_iff (m : CurlMulti) (act : CInt) (s : Fd) (sd : SocketDataId) (o : SockId)
    (oom : Option Dir) : ((m.armDir act s sd o oom .pollIn).1.data sd).Throws act oom .pollOut ↔
    (m.data sd).Throws act oom .pollOut := by
  unfold SocketData.Throws
  rw [armDir_other (by decide)]

/-- The wait for writing is not come to where the one for reading throws. -/
theorem armWaits_read (h : (m.data sd).Throws act oom .pollIn) :
    m.armWaits act s sd o oom = (m, .error .badAlloc) := by
  unfold armWaits
  rw [armDir_throws h]

theorem armWaits_both (h : ¬(m.data sd).Throws act oom .pollIn) :
    m.armWaits act s sd o oom =
      (m.armDir act s sd o oom .pollIn).1.armDir act s sd o oom .pollOut := by
  have hok := armDir_returns (s := s) (o := o) h
  unfold armWaits
  split
  · rename_i m₁ e he
    rw [he] at hok
    simp at hok
  · rename_i m₁ he
    rw [he]

/-- `ArmWaits` throws where one of its calls of `async_wait` does. -/
theorem armWaits_throws (m : CurlMulti) (act : CInt) (s : Fd) (sd : SocketDataId) (o : SockId)
    (oom : Option Dir) :
    (∃ e, (m.armWaits act s sd o oom).2 = .error e) ∧ (∃ dir, (m.data sd).Throws act oom dir) ∨
      (m.armWaits act s sd o oom).2 = .ok () ∧ ∀ dir, ¬(m.data sd).Throws act oom dir := by
  by_cases hin : (m.data sd).Throws act oom .pollIn
  · rw [armWaits_read hin]
    exact Or.inl ⟨⟨.badAlloc, rfl⟩, .pollIn, hin⟩
  · have hiff := armDir_throws_iff m act s sd o oom
    rw [armWaits_both hin]
    by_cases hout : (m.data sd).Throws act oom .pollOut
    · rw [armDir_throws (hiff.mpr hout)]
      exact Or.inl ⟨⟨.badAlloc, rfl⟩, .pollOut, hout⟩
    · refine Or.inr ⟨armDir_returns fun h => hout (hiff.mp h), fun dir => ?_⟩
      cases dir with
      | pollIn => exact hin
      | pollOut => exact hout

/-- A direction that is wanted is armed, unless its wait or the one before it throws. -/
theorem armWaits_asked (hin : ¬(m.data sd).Throws act oom .pollIn)
    (hdir : ¬(m.data sd).Throws act oom dir) (hw : wants act dir = true) :
    ((m.armWaits act s sd o oom).1.data sd).armed dir = true := by
  rw [armWaits_both hin]
  cases dir with
  | pollIn => exact Arms.armed armDir_arms .pollIn (armDir_armed (armDir_returns hin) hw)
  | pollOut =>
      have hiff := armDir_throws_iff m act s sd o oom
      exact armDir_armed (armDir_returns fun h => hdir (hiff.mp h)) hw

/-- A wait is started only where it does not throw, nor the one before it. -/
theorem ArmCall.asked (c : ArmCall) {w : Nat} (hle : c.state.asio.waits.next ≤ w)
    (hlt : w < c.after.asio.waits.next) :
    ¬(c.state.data c.sd).Throws c.act c.oom .pollIn ∧
      ¬(c.state.data c.sd).Throws c.act c.oom (c.after.wait w).dir := by
  have hin : ¬(c.state.data c.sd).Throws c.act c.oom .pollIn := by
    intro hthrow
    rw [ArmCall.after, armWaits_read hthrow] at hlt
    exact absurd hlt (Nat.not_lt.mpr hle)
  refine ⟨hin, ?_⟩
  cases hdir : (c.after.wait w).dir with
  | pollIn => exact hin
  | pollOut =>
      -- the one wait there is then is for reading
      intro hthrow
      have hiff := armDir_throws_iff c.state c.act c.s c.sd c.o c.oom
      have hafter : c.after = (c.state.armDir c.act c.s c.sd c.o c.oom .pollIn).1 := by
        rw [ArmCall.after, armWaits_both hin, armDir_throws (hiff.mpr hthrow)]
      rw [hafter] at hlt hdir
      rw [(armDir_new hle hlt).1] at hdir
      simp at hdir

/-! ### `SetSock` -/

theorem setSock_dead (hdead : m.curlMulti = false) : m.setSock act s sd oom = (m, .ok ()) := by
  unfold setSock
  rw [if_pos (by simp [hdead])]

/-- It records what is wanted, unless it throws. -/
theorem setSock_previous (halive : m.curlMulti = true) (ho : m.socketMap.lookup s = some o)
    (act : CInt) (sd : SocketDataId) (oom : Option Dir) :
    (∀ dir, ¬(m.data sd).Throws act oom dir) ∧
        ((m.setSock act s sd oom).1.data sd).previousAction = act ∨
      (∃ dir, (m.data sd).Throws act oom dir) ∧
        ((m.setSock act s sd oom).1.data sd).previousAction = (m.data sd).previousAction := by
  have harms : Arms sd m (m.armWaits act s sd o oom).1 := armWaits_arms
  have hthrows := armWaits_throws m act s sd o oom
  unfold setSock
  rw [if_neg (by simp [halive]), ho]
  dsimp only
  split
  · rename_i m₁ e he
    rw [he] at harms hthrows
    rcases hthrows with ⟨-, hdir⟩ | ⟨hok, -⟩
    · exact Or.inr ⟨hdir, harms.previous⟩
    · simp at hok
  · rename_i m₁ he
    rw [he] at hthrows
    rcases hthrows with ⟨⟨e, herr⟩, -⟩ | ⟨-, hall⟩
    · simp at herr
    · refine Or.inl ⟨hall, ?_⟩
      simp only [data, Heap.modify_cell_self]

theorem setSock_armed (halive : m.curlMulti = true) (ho : m.socketMap.lookup s = some o)
    (hin : ¬(m.data sd).Throws act oom .pollIn) (hdir : ¬(m.data sd).Throws act oom dir)
    (hw : wants act dir = true) : ((m.setSock act s sd oom).1.data sd).armed dir = true := by
  have harmed := armWaits_asked (s := s) (o := o) hin hdir hw
  unfold setSock
  rw [if_neg (by simp [halive]), ho]
  dsimp only
  split
  · rename_i m₁ e he
    rwa [he] at harmed
  · rename_i m₁ he
    rw [he] at harmed
    simp only [data, Heap.modify_cell_self]
    cases dir <;> exact harmed

/-- Every other `SocketData` stays as it is. -/
theorem setSock_other {sd' : SocketDataId} (hne : sd' ≠ sd) :
    (m.setSock act s sd oom).1.data sd' = m.data sd' := by
  rcases m.setSock_call act s sd oom with ⟨-, hset⟩ | ⟨c, -, hstate, -, -, hsd, -, hset⟩
  · rw [hset]
  · have hafter : c.after.data sd' = m.data sd' := by
      rw [← hstate]
      exact c.arms.other sd' (by rw [hsd]; exact hne)
    rcases hset with ⟨e, hset⟩ | hset
    · rw [hset]
      exact hafter
    · rw [hset, ← hafter]
      simp only [data, Heap.modify_cell_ne _ _ hne]

/-! ### `CurlSocketCallback` -/

/-- What a request finds for its number, and what it adds where there is nothing. -/
inductive Found (m : CurlMulti) (s : Fd) : CurlMulti → Option SocketDataId → Prop
  | tracked {sd : SocketDataId} (hs : m.socketDataMap.lookup s = some sd) :
      Found m s m (some sd)
  | added {m₁ : CurlMulti} {b : Bool} (hs : m.socketDataMap.lookup s = none)
      (hdata : m₁.socketDataMap = m.socketDataMap.insert s m.socketData.next)
      (hsd : m₁.socketData = m.socketData.alloc { isAresSocket := b })
      (hsock : ∀ o, m.socketMap.lookup s = some o → m₁.socketMap = m.socketMap)
      (halive : m₁.curlMulti = m.curlMulti) (hwaits : m₁.asio.waits = m.asio.waits)
      (hsocks : m.asio.socks.next ≤ m₁.asio.socks.next) : Found m s m₁ (some m.socketData.next)
  /-- The number cannot be wrapped. -/
  | refused {m₁ : CurlMulti} {b : Bool} (hs : m.socketDataMap.lookup s = none)
      (hno : m.socketMap.lookup s = none) (hdata : m₁.socketDataMap = m.socketDataMap)
      (hsd : m₁.socketData = m.socketData.alloc { isAresSocket := b })
      (hasio : m₁.asio = m.asio) : Found m s m₁ none

theorem requested_found (m : CurlMulti) (s : Fd) (refusal : Kernel.Refusal) :
    Found m s (m.requested s refusal).1 (m.requested s refusal).2 := by
  unfold requested
  split
  · rename_i sd hs
    exact .tracked hs
  · rename_i hs
    unfold addSocket
    dsimp only
    split
    · exact .added hs rfl rfl (fun _ _ => rfl) rfl rfl (Nat.le_refl _)
    · rename_i ho
      split
      · refine .refused (b := true) hs ho ?_ ?_ ?_
        · exact (Apart.printUnlessDetached _).socketDataMap
        · exact (Apart.printUnlessDetached _).socketData
        · exact printUnlessDetached_asio _
      · rename_i asio o hassign
        obtain ⟨-, hnext, hwaits⟩ := Asio.assignSocket_spec hassign
        refine .added hs rfl rfl (fun o ho' => ?_) rfl hwaits ?_
        · rw [ho] at ho'
          simp at ho'
        · exact hnext ▸ Nat.le_succ _

/-- A number that cannot be wrapped is not tracked. -/
theorem requested_none {refusal : Kernel.Refusal} (hr : (m.requested s refusal).2 = none) :
    (m.requested s refusal).1.socketDataMap.lookup s = none := by
  have hfound := m.requested_found s refusal
  generalize m.requested s refusal = x at hfound hr ⊢
  obtain ⟨m₁, r⟩ := x
  obtain rfl : r = none := hr
  cases hfound with
  | refused hs hno hdata hsd hasio =>
      rw [hdata]
      exact hs

/-- The `SocketData` of a request is the tracked one, or new. -/
theorem requested_which {refusal : Kernel.Refusal} (hr : (m.requested s refusal).2 = some sd) :
    m.socketDataMap.lookup s = some sd ∨
      m.socketDataMap.lookup s = none ∧ sd = m.socketData.next := by
  have hfound := m.requested_found s refusal
  generalize m.requested s refusal = x at hfound hr
  obtain ⟨m₁, r⟩ := x
  obtain rfl : r = some sd := hr
  cases hfound with
  | tracked hs => exact Or.inl hs
  | added hs => exact Or.inr ⟨hs, rfl⟩

/-- It is as it is known. -/
theorem requested_data {refusal : Kernel.Refusal} (hr : (m.requested s refusal).2 = some sd) :
    (m.requested s refusal).1.curlMulti = m.curlMulti ∧
      ((m.requested s refusal).1.data sd).previousAction = (m.known s).previousAction ∧
      ∀ dir, ((m.requested s refusal).1.data sd).armed dir = (m.known s).armed dir := by
  have hfound := m.requested_found s refusal
  generalize m.requested s refusal = x at hfound hr ⊢
  obtain ⟨m₁, r⟩ := x
  obtain rfl : r = some sd := hr
  cases hfound with
  | tracked hs =>
      rw [known_tracked hs]
      exact ⟨rfl, rfl, fun _ => rfl⟩
  | added hs hdata hsd hsock halive hwaits hsocks =>
      rw [known_none hs, data, hsd, Heap.alloc_cell_next]
      exact ⟨halive, rfl, fun _ => rfl⟩

/-- It throws where the known one does. -/
theorem requested_throws {refusal : Kernel.Refusal} (hr : (m.requested s refusal).2 = some sd) :
    ((m.requested s refusal).1.data sd).Throws act oom dir ↔
      (m.known s).Throws act oom dir := by
  unfold SocketData.Throws
  rw [(requested_data hr).2.2 dir]

theorem requested_waits (s : Fd) (refusal : Kernel.Refusal) :
    (m.requested s refusal).1.asio.waits = m.asio.waits := by
  have hfound := m.requested_found s refusal
  generalize m.requested s refusal = x at hfound ⊢
  obtain ⟨m₁, r⟩ := x
  cases hfound with
  | tracked hs => rfl
  | added hs hdata hsd hsock halive hwaits hsocks => exact hwaits
  | refused hs hno hdata hsd hasio => rw [hasio]

theorem requested_socks (m : CurlMulti) (s : Fd) (refusal : Kernel.Refusal) :
    m.asio.socks.next ≤ (m.requested s refusal).1.asio.socks.next := by
  have hfound := m.requested_found s refusal
  generalize m.requested s refusal = x at hfound ⊢
  obtain ⟨m₁, r⟩ := x
  cases hfound with
  | tracked hs => exact Nat.le_refl _
  | added hs hdata hsd hsock halive hwaits hsocks => exact hsocks
  | refused hs hno hdata hsd hasio => rw [hasio]

/-- A number with a socket object is not wrapped. -/
theorem requested_socket (ho : m.socketMap.lookup s = some o) (refusal : Kernel.Refusal) :
    (m.requested s refusal).1.socketMap = m.socketMap ∧
      ∃ sd, (m.requested s refusal).2 = some sd := by
  have hfound := m.requested_found s refusal
  generalize m.requested s refusal = x at hfound ⊢
  obtain ⟨m₁, r⟩ := x
  cases hfound with
  | tracked hs => exact ⟨rfl, _, rfl⟩
  | added hs hdata hsd hsock halive hwaits hsocks => exact ⟨hsock o ho, _, rfl⟩
  | refused hs hno hdata hsd hasio =>
      rw [hno] at ho
      simp at ho

/-- The other numbers, and what is there of `SocketData`, stay as they are. -/
theorem requested_elsewhere {s' : Fd} (hne : s' ≠ s) (refusal : Kernel.Refusal) :
    (m.requested s refusal).1.socketDataMap.lookup s' = m.socketDataMap.lookup s' ∧
      ∀ sd : SocketDataId, sd < m.socketData.next →
        (m.requested s refusal).1.data sd = m.data sd := by
  have hold : ∀ {m₁ : CurlMulti} {d : SocketData} (sd : SocketDataId),
      m₁.socketData = m.socketData.alloc d → sd < m.socketData.next → m₁.data sd = m.data sd := by
    intro m₁ d sd hsd hlt
    rw [data, hsd, Heap.alloc_cell, if_neg (Nat.ne_of_lt hlt)]
  have hfound := m.requested_found s refusal
  generalize m.requested s refusal = x at hfound ⊢
  obtain ⟨m₁, r⟩ := x
  cases hfound with
  | tracked hs => exact ⟨rfl, fun _ _ => rfl⟩
  | added hs hdata hsd hsock halive hwaits hsocks =>
      refine ⟨?_, fun sd => hold sd hsd⟩
      rw [hdata, Table.lookup_insert_if, if_neg hne]
  | refused hs hno hdata hsd hasio => exact ⟨by rw [hdata], fun sd => hold sd hsd⟩

variable {what : CInt} {refusal : Kernel.Refusal}

/-- What a request that is no REMOVE leaves of its number. -/
theorem request_data (ht : Tracking m) (hwhat : what ≠ CURL_POLL_REMOVE)
    (hn : m.next (.socketCallback s what refusal oom) = some m')
    (hs : m'.socketDataMap.lookup s = some sd) : (m.requested s refusal).2 = some sd ∧
      (m'.data sd = if what = CURL_POLL_NONE then (m.requested s refusal).1.data sd
        else ((m.requested s refusal).1.setSock what s sd oom).1.data sd) := by
  obtain rfl := Option.some.inj hn
  obtain ⟨-, -, hdata, hsd⟩ := m.static_same s what refusal oom
  rw [data, hsd]
  rw [hdata] at hs
  cases hr : (m.requested s refusal).2 with
  | none =>
      rw [request_none hwhat hr, requested_none hr] at hs
      simp at hs
  | some sd₀ =>
      have hknown := (requested_known ht hr).1
      rw [request_some oom hwhat hr] at hs ⊢
      by_cases hnone : what = CURL_POLL_NONE
      · rw [if_pos hnone] at hs ⊢
        obtain rfl := Option.some.inj (hknown.symm.trans hs)
        exact ⟨rfl, (if_pos hnone).symm⟩
      · rw [if_neg hnone] at hs ⊢
        rw [(CurlMulti.setSock_same ..).2.1] at hs
        obtain rfl := Option.some.inj (hknown.symm.trans hs)
        exact ⟨rfl, (if_neg hnone).symm⟩

/-- **A request is recorded iff it gets to the last line of `SetSock`.** -/
theorem request_previous (ht : Tracking m) (hwhat : what ≠ CURL_POLL_REMOVE)
    (hn : m.next (.socketCallback s what refusal oom) = some m')
    (hs : m'.socketDataMap.lookup s = some sd) :
    m.Records s what oom ∧ (m'.data sd).previousAction = what ∨
      ¬m.Records s what oom ∧ (m'.data sd).previousAction = (m.known s).previousAction := by
  obtain ⟨hr, hdata⟩ := request_data ht hwhat hn hs
  obtain ⟨hcm, hprevious, -⟩ := requested_data hr
  obtain ⟨-, o, ho⟩ := requested_known ht hr
  rw [hdata]
  by_cases hnone : what = CURL_POLL_NONE
  · rw [if_pos hnone]
    exact Or.inr ⟨fun hrec => hrec.2.1 hnone, hprevious⟩
  · rw [if_neg hnone]
    cases halive : m.curlMulti with
    | false =>
        rw [setSock_dead (hcm.trans halive)]
        refine Or.inr ⟨fun hrec => ?_, hprevious⟩
        exact absurd (halive.symm.trans hrec.1) (by decide)
    | true =>
        rcases setSock_previous (hcm.trans halive) ho what sd oom with
          ⟨hall, hset⟩ | ⟨⟨dir, hdir⟩, hset⟩
        · exact Or.inl ⟨⟨halive, hnone, fun dir h => hall dir ((requested_throws hr).mpr h)⟩, hset⟩
        · exact Or.inr ⟨fun hrec => hrec.2.2 dir ((requested_throws hr).mp hdir),
            hset.trans hprevious⟩

/-- A direction that is asked for is armed, on the socket object of its number. -/
theorem request_armed (ht : Tracking m) (ho : m.socketMap.lookup s = some o)
    (hask : m.Asks s what oom dir) (hn : m.next (.socketCallback s what refusal oom) = some m') :
    ∃ sd, m'.socketDataMap.lookup s = some sd ∧ m'.socketMap.lookup s = some o ∧
      (m'.data sd).armed dir = true := by
  obtain ⟨halive, hw, hin, hdir⟩ := hask
  have hremove : what ≠ CURL_POLL_REMOVE := by
    rintro rfl
    rw [wants_remove] at hw
    exact absurd hw (by decide)
  have hnone : what ≠ CURL_POLL_NONE := by
    rintro rfl
    rw [wants_none] at hw
    exact absurd hw (by decide)
  obtain ⟨hsocks, sd, hr⟩ := requested_socket ho refusal
  obtain ⟨hknown, -⟩ := requested_known ht hr
  have ho' : (m.requested s refusal).1.socketMap.lookup s = some o := by rw [hsocks]; exact ho
  have halive' : (m.requested s refusal).1.curlMulti = true := (requested_data hr).1.trans halive
  obtain rfl := Option.some.inj hn
  obtain ⟨-, hmap, hdata, hsd⟩ := m.static_same s what refusal oom
  have hset := request_some (m := m) oom hremove hr
  rw [if_neg hnone] at hset
  refine ⟨sd, ?_, ?_, ?_⟩
  · rw [hdata, hset, (CurlMulti.setSock_same ..).2.1]
    exact hknown
  · rw [hmap, hset, (CurlMulti.setSock_same ..).1]
    exact ho'
  · rw [data, hsd, hset]
    refine setSock_armed halive' ho' ?_ ?_ hw
    · exact fun h => hin ((requested_throws hr).mp h)
    · exact fun h => hdir ((requested_throws hr).mp h)

/-- The waits there are stay as they are. -/
theorem request_waits (hwhat : what ≠ CURL_POLL_REMOVE)
    (hn : m.next (.socketCallback s what refusal oom) = some m') {w : Nat}
    (hw : w < m.asio.waits.next) : m'.wait w = m.wait w := by
  have hwaits := requested_waits (m := m) s refusal
  obtain rfl := Option.some.inj hn
  rw [wait, (m.static_same s what refusal oom).1]
  cases hr : (m.requested s refusal).2 with
  | none => rw [request_none hwhat hr, hwaits]
  | some sd =>
      rw [request_some oom hwhat hr]
      split
      · rw [hwaits]
      · rcases (m.requested s refusal).1.setSock_call what s sd oom with
          ⟨-, hset⟩ | ⟨c, -, hstate, -, -, -, -, hset⟩
        · rw [hset, hwaits]
        · have hold : c.after.wait w = m.wait w := by
            rw [c.arms.old w (by rw [hstate, hwaits]; exact hw), hstate, wait, hwaits]
          rcases hset with ⟨e, hset⟩ | hset <;> rw [hset] <;> exact hold

/-- The call of `ArmWaits` that a request makes. -/
theorem armCall_request {c : ArmCall}
    (hc : m.armCall (.socketCallback s what refusal oom) = some c) :
    what ≠ CURL_POLL_REMOVE ∧ m.curlMulti = true ∧ (m.requested s refusal).2 = some c.sd ∧
      c.s = s ∧ c.act = what ∧ c.oom = oom ∧
      ∀ dir, (c.state.data c.sd).armed dir = (m.known s).armed dir := by
  simp only [armCall] at hc
  split at hc
  · simp at hc
  · rename_i hwhat
    obtain ⟨sd, hr, hc⟩ := Option.bind_eq_some_iff.mp hc
    obtain ⟨halive, -, harmed⟩ := requested_data hr
    unfold setSockCall at hc
    split at hc
    · rename_i hm
      obtain ⟨o, ho, rfl⟩ := Option.map_eq_some_iff.mp hc
      exact ⟨fun he => hwhat (Or.inl he), halive.symm.trans hm, hr, rfl, rfl, rfl, harmed⟩
    · simp at hc

/-- It starts waits for directions that the request asks for. -/
theorem armCall_asks {c : ArmCall} {w : Nat}
    (hc : m.armCall (.socketCallback s what refusal oom) = some c)
    (hle : c.state.asio.waits.next ≤ w) (hlt : w < c.after.asio.waits.next) :
    m.Asks s what oom (c.after.wait w).dir := by
  obtain ⟨-, halive, -, -, rfl, rfl, harmed⟩ := armCall_request hc
  have hthrows : ∀ dir, (c.state.data c.sd).Throws c.act c.oom dir ↔
      (m.known s).Throws c.act c.oom dir := by
    intro dir
    unfold SocketData.Throws
    rw [harmed dir]
  obtain ⟨hin, hdir⟩ := c.asked hle hlt
  obtain ⟨dir, hnew, hwants, -⟩ := c.new hle hlt
  rw [hnew] at hdir ⊢
  exact ⟨halive, hwants, fun h => hin ((hthrows _).mpr h), fun h => hdir ((hthrows _).mpr h)⟩

/-! ### What a step leaves -/

/-- `previous_action` is written by requests alone. -/
theorem next_previous (hn : m.next a = some m')
    (ha : ∀ s what refusal oom, a ≠ .socketCallback s what refusal oom) (sd : SocketDataId) :
    (m'.data sd).previousAction = (m.data sd).previousAction := by
  have hsame : m'.socketData = m.socketData →
      (m'.data sd).previousAction = (m.data sd).previousAction := by
    intro he
    rw [data, he]
  cases next_fires hn with
  | socketCallback s what refusal oom => exact absurd rfl (ha s what refusal oom)
  | dispatch w r hidle hst =>
      have hclear : ((m.socketData.modify (m.wait w).sd fun d =>
          d.setArmed (m.wait w).dir false).cell sd).previousAction =
            (m.data sd).previousAction := by
        by_cases he : sd = (m.wait w).sd
        · rw [he, Heap.modify_cell_self, Tracking.setArmed_previousAction]
        · rw [Heap.modify_cell_ne _ _ he]
      unfold asioSocketActionCallback
      dsimp only
      repeat' split
      all_goals exact hclear
  | socketReturn oom dir s sd' error hh =>
      have hcatch := (Apart.pollCatch (m.rearm s sd' error oom)).socketData
      have hstop := (Apart.stopTimer m).socketData
      rw [data, hcatch]
      rcases m.rearm_call s sd' error oom with
        ⟨-, hrearm⟩ | ⟨c, -, hstate, -, -, -, -, -, -, -, hrearm⟩
      · rw [hrearm, hstop]
      · have harms := c.arms
        have hstay : (c.after.data sd).previousAction = (c.state.data sd).previousAction := by
          by_cases he : sd = c.sd
          · rw [he]
            exact harms.previous
          · rw [harms.other sd he]
        rw [hrearm]
        show (c.after.data sd).previousAction = _
        rw [hstay, hstate, data, hstop]
  | timerReturn oom hh => rfl
  | openSocketCallback purpose family reply hfree => exact hsame open_socketData
  | closeSocketCallback s => exact hsame close_socketData
  | complete w r asio hc => exact hsame rfl
  | foreignOpen s hfree => exact hsame rfl
  | foreignClose s => exact hsame rfl
  | _ => exact hsame (next_apart hn not_false).socketData

/-- REMOVE forgets its number at most, and writes to no `SocketData`. -/
theorem remove_data {s' : Fd}
    (hn : m.next (.socketCallback s CURL_POLL_REMOVE refusal oom) = some m')
    (hs : m'.socketDataMap.lookup s' = some sd) :
    m.socketDataMap.lookup s' = some sd ∧ m'.socketData = m.socketData := by
  have hremove : ∀ sd₀, (m.removeSocket s sd₀).1.socketData = m.socketData ∧
      ((m.removeSocket s sd₀).1.socketDataMap = m.socketDataMap ∨
        (m.removeSocket s sd₀).1.socketDataMap = m.socketDataMap.erase s) := by
    intro sd₀
    unfold removeSocket
    dsimp only
    repeat' split
    all_goals first | exact ⟨rfl, Or.inl rfl⟩ | exact ⟨rfl, Or.inr rfl⟩
  obtain rfl := Option.some.inj hn
  obtain ⟨-, -, hdata, hsd⟩ := m.static_same s CURL_POLL_REMOVE refusal oom
  rw [hdata] at hs
  rw [hsd]
  unfold curlSocketCallback at hs ⊢
  rw [if_pos rfl] at hs ⊢
  split at hs
  · exact ⟨hs, rfl⟩
  · obtain ⟨hsame, hkeep | herase⟩ := hremove _
    · rw [hkeep] at hs
      exact ⟨hs, hsame⟩
    · rw [herase] at hs
      exact ⟨(Table.lookup_erase_eq_some.mp hs).2, hsame⟩

/-- A request leaves what is known of the other numbers. -/
theorem request_elsewhere {s' : Fd} (ht : Tracking m) (ht' : Tracking m')
    (hwhat : what ≠ CURL_POLL_REMOVE)
    (hn : m.next (.socketCallback s what refusal oom) = some m')
    (hs : m'.socketDataMap.lookup s' = some sd) (hne : s' ≠ s) :
    m.socketDataMap.lookup s' = some sd ∧ m'.data sd = m.data sd := by
  obtain ⟨hlookup, hcell⟩ := m.requested_elsewhere hne refusal
  obtain rfl := Option.some.inj hn
  obtain ⟨-, -, hdata, hsd⟩ := m.static_same s what refusal oom
  rw [data, hsd]
  cases hr : (m.requested s refusal).2 with
  | none =>
      rw [hdata, request_none hwhat hr, hlookup] at hs
      rw [request_none hwhat hr]
      exact ⟨hs, hcell sd (ht.dataLt hs)⟩
  | some sd₀ =>
      have hmap : (m.curlSocketCallbackStatic s what refusal oom).1.socketDataMap =
          (m.requested s refusal).1.socketDataMap := by
        rw [hdata, request_some oom hwhat hr]
        split
        · rfl
        · exact (CurlMulti.setSock_same ..).2.1
      have hnesd : sd ≠ sd₀ := by
        rintro rfl
        have hknown : (m.curlSocketCallbackStatic s what refusal oom).1.socketDataMap.lookup s =
            some sd := by
          rw [hmap]
          exact (requested_known ht hr).1
        exact hne (ht'.dataInj hs hknown)
      rw [hmap, hlookup] at hs
      have hkept := hcell sd (ht.dataLt hs)
      rw [request_some oom hwhat hr]
      split
      · exact ⟨hs, hkept⟩
      · exact ⟨hs, (setSock_other hnesd).trans hkept⟩

/-- **Only a request for its number changes what is known of a tracked `SocketData`.** -/
theorem next_known (hnat : Native m) (ht : Tracking m) (ht' : Tracking m')
    (hn : m.next a = some m') (hs : m'.socketDataMap.lookup s = some sd)
    (ha : ∀ what refusal oom, a = .socketCallback s what refusal oom → what = CURL_POLL_REMOVE) :
    m.socketDataMap.lookup s = some sd ∧
      (m'.data sd).previousAction = (m.data sd).previousAction := by
  by_cases hreq : ∃ s₀ what refusal oom, a = .socketCallback s₀ what refusal oom
  · obtain ⟨s₀, what, refusal, oom, rfl⟩ := hreq
    by_cases hwhat : what = CURL_POLL_REMOVE
    · subst hwhat
      obtain ⟨hs', hsame⟩ := remove_data hn hs
      exact ⟨hs', by rw [data, hsame]⟩
    · have hne : s ≠ s₀ := fun he => hwhat (ha what refusal oom (by rw [he]))
      obtain ⟨hs', hsame⟩ := request_elsewhere ht ht' hwhat hn hs hne
      exact ⟨hs', by rw [hsame]⟩
  · refine ⟨?_, next_previous hn (fun s₀ what refusal oom he => hreq ⟨_, _, _, _, he⟩) sd⟩
    cases next_mapStep hnat ht hn with
    | keep hsock hdata hremoved =>
        rw [← hdata]
        exact hs
    | close hsock hdata hremoved =>
        rw [hdata] at hs
        exact (Table.lookup_erase_eq_some.mp hs).2
    | opens hsock hdata hnext hremoved =>
        rw [hdata] at hs
        exact (Table.lookup_erase_eq_some.mp hs).2
    | _ => exact absurd ⟨_, _, _, _, rfl⟩ hreq

/-- A `SocketData` that is tracked has been, or is new. -/
theorem next_tracked (hnat : Native m) (ht : Tracking m) (ht' : Tracking m')
    (hn : m.next a = some m') (hs : m'.socketDataMap.lookup s = some sd)
    (hlt : sd < m.socketData.next) : m.socketDataMap.lookup s = some sd := by
  by_cases hreq : ∃ what refusal oom, a = .socketCallback s what refusal oom ∧
      what ≠ CURL_POLL_REMOVE
  · obtain ⟨what, refusal, oom, rfl, hwhat⟩ := hreq
    rcases requested_which (request_data ht hwhat hn hs).1 with hs₀ | ⟨-, rfl⟩
    · exact hs₀
    · exact absurd hlt (Nat.lt_irrefl _)
  · refine (next_known hnat ht ht' hn hs fun what refusal oom he => ?_).1
    by_contra hwhat
    exact hreq ⟨what, refusal, oom, he, hwhat⟩

/-- The waits there are stay bound as they were; the new ones are what the call wants. -/
theorem next_waits (hn : m.next a = some m') :
    m.asio.waits.next ≤ m'.asio.waits.next ∧
    (∀ w : Nat, w < m.asio.waits.next → (m'.wait w).sd = (m.wait w).sd ∧
      (m'.wait w).dir = (m.wait w).dir ∧ (m'.wait w).fd = (m.wait w).fd ∧
      ((m'.wait w).cancelled = false → (m.wait w).cancelled = false)) ∧
    ∀ w : Nat, m.asio.waits.next ≤ w → w < m'.asio.waits.next →
      ∃ c dir, m.armCall a = some c ∧ Through m m' c ∧
        m'.wait w = ⟨dir, c.s, c.sd, c.o, false, .pending⟩ ∧ wants c.act dir = true ∧
        (c.state.data c.sd).armed dir = false := by
  rcases next_calls hn with ⟨-, hrests⟩ | ⟨c, hc, hthrough⟩ | ⟨w', r, -, -, hasio⟩
  · refine ⟨Nat.le_of_eq hrests.next_eq.symm, fun w _ => ?_, fun w hle hlt => ?_⟩
    · obtain ⟨hdir, hsd, -⟩ := hrests.bound w
      exact ⟨hsd, hdir, hrests.fd w, hrests.cancelled w⟩
    · rw [hrests.next_eq] at hlt
      exact absurd hlt (Nat.not_lt.mpr hle)
  · have harms := c.arms
    have hcell : ∀ w, m'.wait w = c.after.wait w := fun w => by rw [wait, hthrough.asio]
    have hnext := hthrough.rests.next_eq
    refine ⟨?_, fun w hlt => ?_, fun w hle hlt => ?_⟩
    · rw [← hnext, hthrough.asio]
      exact harms.next_le
    · obtain ⟨hdir, hsd, -⟩ := hthrough.rests.bound w
      rw [hcell w, harms.old w (by rw [hnext]; exact hlt)]
      exact ⟨hsd, hdir, hthrough.rests.fd w, hthrough.rests.cancelled w⟩
    · rw [← hnext] at hle
      rw [hthrough.asio] at hlt
      obtain ⟨dir, hnew, hrest⟩ := c.new hle hlt
      exact ⟨c, dir, hc, hthrough, (hcell w).trans hnew, hrest⟩
  · have hnext : m'.asio.waits.next = m.asio.waits.next := by
      rw [hasio]
      rfl
    refine ⟨Nat.le_of_eq hnext.symm, fun w _ => ?_, fun w hle hlt => ?_⟩
    · obtain ⟨hsd, hdir⟩ := m.asio.markDispatched_bound w' r w
      obtain ⟨hfd, hcancelled⟩ := m.asio.markDispatched_marks w' r w
      rw [wait, hasio]
      exact ⟨hsd, hdir, hfd, fun h => hcancelled.symm.trans h⟩
    · rw [hnext] at hlt
      exact absurd hlt (Nat.not_lt.mpr hle)

end CurlMulti

end AmxxCurl
