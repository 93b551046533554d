/-
Who closes a file descriptor.

Nothing in `CurlMulti` says which descriptors are libcurl's: it is inferred from
whether the number was in `socket_map_` when libcurl first asked to watch it.  The
inference is right because a number the open callback returned stays mapped, and is
never tracked as c-ares's, until the close callback takes it out.  So `release()` is
never applied to it and the destructor that closes it runs once, in that callback.

The files behind the numbers are told apart by `FileId`: a number may name a file of
libcurl's today and one of c-ares's tomorrow.
-/
import AmxxCurl.Multi.Sockets

namespace AmxxCurl

namespace CurlMulti

variable {m m' : CurlMulti} {tr : List Action}

/-- The open callback gave libcurl the number `s` of the file `f`, not closed since. -/
def Holds (m : CurlMulti) (s : Fd) (f : FileId) : Prop :=
  .opened s f ∈ m.log ∧ .closed s f ∉ m.log

instance (m : CurlMulti) (s : Fd) (f : FileId) : Decidable (m.Holds s f) :=
  inferInstanceAs (Decidable (_ ∧ _))

/-- libcurl closes through the callback what it holds, and nobody else closes that. -/
def Lawful : CurlMulti → Action → Prop
  | m, .closeSocketCallback s => ∃ f, m.Holds s f
  | m, .foreignClose s => ¬∃ f, m.Holds s f
  | _, _ => True

/-- The files the open callback has returned under `s`. -/
def openedFiles (m : CurlMulti) (s : Fd) : List FileId :=
  m.log.filterMap fun e =>
    match e with
    | .opened s' f => if s' = s then some f else none
    | _ => none

instance (m : CurlMulti) (s : Fd) : Decidable (∃ f, m.Holds s f) :=
  decidable_of_iff (∃ f ∈ m.openedFiles s, .closed s f ∉ m.log) <| by
    have hmem : ∀ f, f ∈ m.openedFiles s ↔ .opened s f ∈ m.log := by
      intro f
      unfold openedFiles
      rw [List.mem_filterMap]
      constructor
      · rintro ⟨e, he, hf⟩
        cases e <;> simp only [reduceCtorEq, Option.ite_none_right_eq_some, Option.some.injEq] at hf
        obtain ⟨rfl, rfl⟩ := hf
        exact he
      · intro he
        exact ⟨_, he, if_pos rfl⟩
    simp only [hmem, Holds]

instance : ∀ m a, Decidable (Lawful m a)
  | m, .closeSocketCallback s => inferInstanceAs (Decidable (∃ f, m.Holds s f))
  | m, .foreignClose s => inferInstanceAs (Decidable (¬∃ f, m.Holds s f))
  | _, .socketCallback .. | _, .openSocketCallback .. | _, .timerCallback _ | _, .complete ..
  | _, .dispatch _ | _, .expire _ | _, .dispatchTimer _ | _, .runPosted
  | _, .socketActionReturn _ | _, .checkMultiInfoReturn _ | _, .checkMultiInfoThrow
  | _, .foreignOpen _ | _, .detach | _, .shutdown => .isTrue trivial

/-! ### The maps -/

/-- `s` is mapped, and if it is tracked then not as a socket of c-ares. -/
def Mapped (m : CurlMulti) (s : Fd) : Prop :=
  (∃ o, m.socketMap.lookup s = some o) ∧
    ∀ sd, m.socketDataMap.lookup s = some sd → (m.data sd).isAresSocket = false

namespace Mapped

variable {s : Fd}

theorem of_eq (h : Mapped m s) (hsock : m'.socketMap.lookup s = m.socketMap.lookup s)
    (hdata : ∀ sd, m'.socketDataMap.lookup s = some sd →
      m.socketDataMap.lookup s = some sd ∧ (m'.data sd).isAresSocket = (m.data sd).isAresSocket) :
    Mapped m' s := by
  refine ⟨by rw [hsock]; exact h.1, fun sd hs => ?_⟩
  obtain ⟨hs', hares⟩ := hdata sd hs
  rw [hares]
  exact h.2 sd hs'

theorem still (h : Mapped m s) (hs : Still m m') : Mapped m' s :=
  h.of_eq (by rw [hs.socketMap]) fun sd hd => ⟨by rwa [hs.socketDataMap] at hd, hs.ares sd⟩

/-- REMOVE of a number that is not c-ares's leaves the socket in place. -/
theorem removeSocket {s' : Fd} {sd : SocketDataId} (h : Mapped m s)
    (hsd : m.socketDataMap.lookup s' = some sd) : Mapped (m.removeSocket s' sd).1 s := by
  have herase : ∀ {sd'}, (m.socketDataMap.erase s').lookup s = some sd' →
      m.socketDataMap.lookup s = some sd' := fun hs => (Table.lookup_erase_eq_some.mp hs).2
  unfold CurlMulti.removeSocket
  split
  · exact h.of_eq rfl fun sd' hs => ⟨herase hs, rfl⟩
  · split
    · rename_i hares
      have hne : s ≠ s' := by
        rintro rfl
        rw [h.2 sd hsd] at hares
        exact Bool.noConfusion hares
      split
      · exact h
      · exact h.of_eq ((Table.lookup_erase_if ..).trans (if_neg hne)) fun sd' hs =>
          ⟨herase hs, rfl⟩
    · exact h.of_eq rfl fun sd' hs => ⟨herase hs, rfl⟩

/-- A mapped number is not wrapped: it is tracked as libcurl's own. -/
theorem addSocket {s' : Fd} {refusal : Kernel.Refusal} (h : Mapped m s) (ht : Tracking m) :
    Mapped (m.addSocket s' refusal).1 s := by
  have hcell : ∀ {sd d}, m.socketDataMap.lookup s = some sd →
      (m.socketData.alloc d).cell sd = m.data sd :=
    fun hs => Heap.alloc_cell_lt _ _ (ht.dataLt hs)
  unfold CurlMulti.addSocket
  split
  · refine ⟨h.1, fun sd hs => ?_⟩
    show ((m.socketData.alloc {}).cell sd).isAresSocket = false
    rcases Table.lookup_insert_eq_some.mp hs with ⟨-, rfl⟩ | ⟨-, hs⟩
    · rw [Heap.alloc_cell_next]
    · rw [hcell hs]
      exact h.2 sd hs
  · rename_i hnone
    have hne : s ≠ s' := by
      rintro rfl
      obtain ⟨o, ho⟩ := h.1
      rw [hnone] at ho
      exact absurd ho (by simp)
    dsimp only
    split
    · have hgrow : Mapped { m with
          socketData := m.socketData.alloc { isAresSocket := true } } s :=
        h.of_eq rfl fun sd hs => ⟨hs, by rw [data, hcell hs]⟩
      exact (hgrow.still (.printUnlessDetached _)).still (.push trivial)
    · refine h.of_eq ((Table.lookup_insert_if ..).trans (if_neg hne)) fun sd hs => ?_
      obtain ⟨-, hs⟩ := (Table.lookup_insert_eq_some.mp hs).resolve_left fun hc => hne hc.1
      refine ⟨hs, ?_⟩
      show ((m.socketData.alloc { isAresSocket := true }).cell sd).isAresSocket = _
      rw [hcell hs]

theorem curlSocketCallback {s' : Fd} {what : CInt} {refusal : Kernel.Refusal}
    {oom : Option Dir} (h : Mapped m s) (ht : Tracking m) :
    Mapped (m.curlSocketCallbackStatic s' what refusal oom).1 s := by
  have hcb : Mapped (m.curlSocketCallback s' what refusal oom).1 s := by
    unfold CurlMulti.curlSocketCallback
    split
    · split
      · exact h
      · rename_i hsd
        exact h.removeSocket hsd
    · dsimp only
      split
      · split
        · exact h
        · exact h.still .setSock
      · have hadd : Mapped (m.addSocket s' refusal).1 s := h.addSocket ht
        split
        · rename_i m₁ he
          rw [he] at hadd
          exact hadd
        · rename_i m₁ sd he
          rw [he] at hadd
          split
          · exact hadd
          · exact hadd.still .setSock
  unfold CurlMulti.curlSocketCallbackStatic
  split
  · rename_i m₁ u he
    rw [he] at hcb
    exact hcb
  · rename_i m₁ e he
    rw [he] at hcb
    exact hcb.still (.printUnlessDetached m₁)

/-- The number just opened is mapped, and not tracked yet. -/
theorem opened {a : Asio} {o : SockId} (ht : Tracking m) (ho : Opens m m' s a o) :
    Mapped m' s := by
  refine ⟨⟨o, by rw [ho.socketMap, if_pos rfl]⟩, fun sd hs => ?_⟩
  exfalso
  rcases hsock : m.socketMap.lookup s with _ | stale
  · rw [(ho.fresh hsock).2] at hs
    obtain ⟨o', ho'⟩ := ht.dataSock hs
    rw [hsock] at ho'
    exact absurd ho' (by simp)
  · rw [(ho.evicted stale hsock).2, Finmap.lookup_erase] at hs
    exact absurd hs (by simp)

theorem opens {s' : Fd} {a : Asio} {o : SockId} (h : Mapped m s) (ht : Tracking m)
    (ho : Opens m m' s' a o) : Mapped m' s := by
  by_cases hs : s = s'
  · subst hs
    exact .opened ht ho
  · refine h.of_eq (by rw [ho.socketMap, if_neg hs]) fun sd hd => ?_
    refine ⟨?_, by rw [data, ho.socketData]⟩
    rcases hsock : m.socketMap.lookup s' with _ | stale
    · rwa [(ho.fresh hsock).2] at hd
    · rw [(ho.evicted stale hsock).2] at hd
      exact (Table.lookup_erase_eq_some.mp hd).2

theorem curlCloseSocketCallback {s' : Fd} (h : Mapped m s) (hs : s ≠ s') :
    Mapped (m.curlCloseSocketCallback s') s := by
  have huntrack : ∀ {m₁ : CurlMulti}, m₁.socketDataMap = m.socketDataMap →
      m₁.socketData = m.socketData → m₁.socketMap.lookup s = m.socketMap.lookup s →
      Mapped { m₁ with socketDataMap := m₁.socketDataMap.erase s' } s := by
    intro m₁ hdata hsd hsock
    refine h.of_eq hsock fun sd hd => ?_
    have hd' := (Table.lookup_erase_eq_some.mp hd).2
    rw [hdata] at hd'
    exact ⟨hd', by simp only [data, hsd]⟩
  unfold CurlMulti.curlCloseSocketCallback
  dsimp only
  split
  · exact huntrack rfl rfl rfl
  · rename_i o _
    obtain ⟨-, -, hdata, hsd, -⟩ := Tracking.destroySocket_asio m o
    have hsock : (m.socketMap.erase s').lookup s = m.socketMap.lookup s :=
      (Table.lookup_erase_if ..).trans (if_neg hs)
    exact huntrack hdata hsd hsock

/-- Only the close callback takes a mapped number out. -/
theorem next {a : Action} (h : Mapped m s) (ht : Tracking m) (hnat : Native m)
    (hn : m.next a = some m') (ha : a ≠ .closeSocketCallback s) : Mapped m' s := by
  by_cases hon : a.OnSocket
  · cases a <;> first | exact hon.elim | skip
    case socketCallback s' what refusal oom =>
      obtain rfl := Option.some.inj hn
      exact h.curlSocketCallback ht
    case openSocketCallback purpose family reply =>
      simp only [CurlMulti.next] at hn
      split at hn
      · obtain rfl := Option.some.inj hn
        rcases hnat.curlOpenSocketCallback_cases ht purpose family reply with
          he | ⟨s', a, o, -, ho⟩
        · rw [he]
          exact h
        · exact h.opens ht ho
      · simp at hn
    case closeSocketCallback s' =>
      obtain rfl := Option.some.inj hn
      exact h.curlCloseSocketCallback fun he => ha (by rw [he])
    case foreignOpen s' =>
      simp only [CurlMulti.next] at hn
      split at hn
      · obtain rfl := Option.some.inj hn
        exact h.of_eq rfl fun _ hs => ⟨hs, rfl⟩
      · simp at hn
    case foreignClose s' =>
      obtain rfl := Option.some.inj hn
      exact h.of_eq rfl fun _ hs => ⟨hs, rfl⟩
  · exact h.still (next_still hn hon)

end Mapped

/-! ### The files -/

/-- What a step does to the open files, and what it logs about them. -/
inductive FileStep (m : CurlMulti) : Action → CurlMulti → Prop
  /-- Nothing: also REMOVE, for whoever's socket. -/
  | keep {a m'} (hclose : ∀ s, a ≠ .closeSocketCallback s) (hforeign : ∀ s, a ≠ .foreignClose s)
      (hlog : Appends NoFile m.log m'.log)
      (hfiles : m'.asio.kernel.files = m.asio.kernel.files)
      (hnext : m'.asio.kernel.nextFile = m.asio.kernel.nextFile) : FileStep m a m'
  /-- The open callback; the eviction of a stale entry closes nothing. -/
  | opened {purpose family s m' l} (hfree : m.asio.kernel.files.lookup s = none)
      (hl : Appends NoFile m.log l) (hlog : m'.log = l ++ [.opened s m.asio.kernel.nextFile])
      (hfiles : m'.asio.kernel.files = m.asio.kernel.files.insert s m.asio.kernel.nextFile)
      (hnext : m'.asio.kernel.nextFile = m.asio.kernel.nextFile + 1)
      (hmapped : Mapped m' s) : FileStep m (.openSocketCallback purpose family (some s)) m'
  /-- The close callback closes the file libcurl holds. -/
  | closed {s f m'} (hheld : m.Holds s f) (hlog : m'.log = m.log ++ [.closed s f])
      (hfiles : m'.asio.kernel.files = m.asio.kernel.files.erase s)
      (hnext : m'.asio.kernel.nextFile = m.asio.kernel.nextFile) :
      FileStep m (.closeSocketCallback s) m'
  | foreignOpen {s m'} (hfree : m.asio.kernel.files.lookup s = none) (hlog : m'.log = m.log)
      (hfiles : m'.asio.kernel.files = m.asio.kernel.files.insert s m.asio.kernel.nextFile)
      (hnext : m'.asio.kernel.nextFile = m.asio.kernel.nextFile + 1) :
      FileStep m (.foreignOpen s) m'
  | foreignClose {s m'} (hheld : ¬∃ f, m.Holds s f) (hlog : m'.log = m.log)
      (hfiles : m'.asio.kernel.files = m.asio.kernel.files.erase s)
      (hnext : m'.asio.kernel.nextFile = m.asio.kernel.nextFile) :
      FileStep m (.foreignClose s) m'

/-- What libcurl holds is open under its number and mapped; closing is logged once. -/
structure Ownership (m : CurlMulti) : Prop where
  held : ∀ ⦃s f⦄, m.Holds s f → m.asio.kernel.files.lookup s = some f ∧ Mapped m s
  closedOpened : ∀ ⦃s f⦄, .closed s f ∈ m.log → .opened s f ∈ m.log
  openedLt : ∀ ⦃s f⦄, .opened s f ∈ m.log → f < m.asio.kernel.nextFile
  once : ∀ s f, m.log.count (.closed s f) ≤ 1

theorem removeSocket_files {s : Fd} {sd : SocketDataId} :
    (m.removeSocket s sd).1.asio.kernel.files = m.asio.kernel.files ∧
      (m.removeSocket s sd).1.asio.kernel.nextFile = m.asio.kernel.nextFile := by
  unfold removeSocket
  split
  · exact ⟨rfl, rfl⟩
  · split
    · split
      · exact ⟨rfl, rfl⟩
      · rename_i ha
        exact (Asio.release_socks ha).2
    · rename_i o _ _
      have hk := (Asio.cancel_socks m.asio o).2
      exact ⟨congrArg Kernel.files hk, congrArg Kernel.nextFile hk⟩

theorem addSocket_files (m : CurlMulti) (s : Fd) (refusal : Kernel.Refusal) :
    (m.addSocket s refusal).1.asio.kernel.files = m.asio.kernel.files ∧
      (m.addSocket s refusal).1.asio.kernel.nextFile = m.asio.kernel.nextFile := by
  unfold addSocket
  split
  · exact ⟨rfl, rfl⟩
  · dsimp only
    split
    · have hk := (Still.printUnlessDetached { m with
        socketData := m.socketData.alloc { isAresSocket := true } }).kernel
      exact ⟨congrArg Kernel.files hk, congrArg Kernel.nextFile hk⟩
    · rename_i ha
      exact (Asio.assignSocket_socks ha).2

/-- The socket callback opens and closes nothing, whatever `what` is. -/
theorem curlSocketCallback_files (m : CurlMulti) (s : Fd) (what : CInt)
    (refusal : Kernel.Refusal) (oom : Option Dir) :
    (m.curlSocketCallbackStatic s what refusal oom).1.asio.kernel.files = m.asio.kernel.files ∧
      (m.curlSocketCallbackStatic s what refusal oom).1.asio.kernel.nextFile
        = m.asio.kernel.nextFile := by
  have hsame : ∀ {m₁ m₂ : CurlMulti}, Still m₁ m₂ →
      m₁.asio.kernel.files = m.asio.kernel.files ∧
        m₁.asio.kernel.nextFile = m.asio.kernel.nextFile →
      m₂.asio.kernel.files = m.asio.kernel.files ∧
        m₂.asio.kernel.nextFile = m.asio.kernel.nextFile := by
    intro m₁ m₂ hs h
    rw [hs.kernel]
    exact h
  have hcb : (m.curlSocketCallback s what refusal oom).1.asio.kernel.files = m.asio.kernel.files ∧
      (m.curlSocketCallback s what refusal oom).1.asio.kernel.nextFile
        = m.asio.kernel.nextFile := by
    unfold curlSocketCallback
    split
    · split
      · exact ⟨rfl, rfl⟩
      · exact removeSocket_files
    · dsimp only
      split
      · split
        · exact ⟨rfl, rfl⟩
        · exact hsame .setSock ⟨rfl, rfl⟩
      · have hadd := m.addSocket_files s refusal
        split
        · rename_i m₁ he
          rw [he] at hadd
          exact hadd
        · rename_i m₁ sd he
          rw [he] at hadd
          split
          · exact hadd
          · exact hsame .setSock hadd
  unfold curlSocketCallbackStatic
  split
  · rename_i m₁ u he
    rw [he] at hcb
    exact hcb
  · rename_i m₁ e he
    rw [he] at hcb
    exact hsame (.printUnlessDetached m₁) hcb

/-- The open callback opens the number the kernel gave it, and closes none. -/
theorem Opens.files {s : Fd} {a : Asio} {o : SockId} (h : Opens m m' s a o) :
    m'.asio.kernel.files = m.asio.kernel.files.insert s m.asio.kernel.nextFile ∧
      m'.asio.kernel.nextFile = m.asio.kernel.nextFile + 1 := by
  obtain ⟨-, hfiles, hnext⟩ := Asio.openSocket_socks h.openSocket
  rcases hs : m.socketMap.lookup s with _ | stale
  · rw [(h.fresh hs).1]
    exact ⟨hfiles, hnext⟩
  · obtain ⟨-, hf, hn⟩ := Asio.release_socks (h.evicted stale hs).1
    exact ⟨hf.trans hfiles, hn.trans hnext⟩

/-- The close callback destroys the one socket object of the number, which closes it. -/
theorem Ownership.close {s : Fd} {f : FileId} (h : Ownership m) (hnat : Native m)
    (hheld : m.Holds s f) : FileStep m (.closeSocketCallback s) (m.curlCloseSocketCallback s) := by
  obtain ⟨hfile, ⟨o, ho⟩, -⟩ := h.held hheld
  have hdestroy : m.destroySocket o = { m with asio := m.asio.destroy o }.push (.closed s f) := by
    unfold destroySocket
    rw [hnat ho]
    dsimp only
    rw [hfile]
  obtain ⟨-, hfiles, hnext⟩ := Asio.destroy_socks (hnat ho)
  unfold curlCloseSocketCallback
  rw [ho]
  dsimp only
  rw [hdestroy]
  exact .closed hheld rfl hfiles hnext

/-- Every lawful step is one of the five. -/
theorem Ownership.fileStep {a : Action} (h : Ownership m) (ht : Tracking m) (hnat : Native m)
    (hc : Lawful m a) (hn : m.next a = some m') : FileStep m a m' := by
  by_cases hon : a.OnSocket
  · cases a <;> first | exact hon.elim | skip
    case socketCallback s what refusal oom =>
      obtain rfl := Option.some.inj hn
      obtain ⟨hfiles, hnext⟩ := m.curlSocketCallback_files s what refusal oom
      exact .keep (by simp) (by simp) (curlSocketCallback_emits.log.mono fun _ => Quiet.noFile)
        hfiles hnext
    case openSocketCallback purpose family reply =>
      simp only [CurlMulti.next] at hn
      split at hn
      · rename_i hfree
        obtain rfl := Option.some.inj hn
        rcases hnat.curlOpenSocketCallback_cases ht purpose family reply with
          he | ⟨s, a, o, rfl, ho⟩
        · rw [he]
          exact .keep (by simp) (by simp) (.refl _) rfl rfl
        · obtain ⟨l, hl, hlog⟩ := ho.log
          exact .opened (hfree s rfl) (hl.mono fun _ => Quiet.noFile) hlog ho.files.1 ho.files.2
            (.opened ht ho)
      · simp at hn
    case closeSocketCallback s =>
      obtain rfl := Option.some.inj hn
      obtain ⟨f, hheld⟩ := hc
      exact h.close hnat hheld
    case foreignOpen s =>
      simp only [CurlMulti.next] at hn
      split at hn
      · rename_i hfree
        obtain rfl := Option.some.inj hn
        exact .foreignOpen hfree rfl rfl rfl
      · simp at hn
    case foreignClose s =>
      obtain rfl := Option.some.inj hn
      exact .foreignClose hc rfl rfl rfl
  · have hs := next_still hn hon
    refine .keep ?_ ?_ hs.log (congrArg Kernel.files hs.kernel) (congrArg Kernel.nextFile hs.kernel)
    · rintro s rfl
      exact hon trivial
    · rintro s rfl
      exact hon trivial

/-- A log without news about files holds what the shorter one held. -/
theorem noFile_mem {l l' : List Event} (h : Appends NoFile l l') (s : Fd) (f : FileId) :
    (.opened s f ∈ l' ↔ .opened s f ∈ l) ∧ (.closed s f ∈ l' ↔ .closed s f ∈ l) :=
  ⟨⟨fun he => (h.mem_or he).resolve_right id, h.mem⟩,
    ⟨fun he => (h.mem_or he).resolve_right id, h.mem⟩⟩

theorem noFile_count {l l' : List Event} (h : Appends NoFile l l') (s : Fd) (f : FileId) :
    l'.count (.closed s f) = l.count (.closed s f) := by
  refine h.countP_eq fun e he => ?_
  cases e <;> first | rfl | exact False.elim he

namespace Ownership

/-- A number libcurl holds names one file. -/
theorem holds_unique (h : Ownership m) {s : Fd} {f f' : FileId} (hf : m.Holds s f)
    (hf' : m.Holds s f') : f = f' :=
  Option.some.inj ((h.held hf).1.symm.trans (h.held hf').1)

/-- Nothing is logged about a file, and what libcurl holds stays open. -/
theorem unlogged (h : Ownership m) (hlog : Appends NoFile m.log m'.log)
    (hheld : ∀ {s f}, m.Holds s f → m'.asio.kernel.files.lookup s = some f ∧ Mapped m' s)
    (hnext : m.asio.kernel.nextFile ≤ m'.asio.kernel.nextFile) : Ownership m' where
  held := by
    intro s f hf
    exact hheld ⟨(noFile_mem hlog s f).1.mp hf.1, fun hc => hf.2 ((noFile_mem hlog s f).2.mpr hc)⟩
  closedOpened := by
    intro s f he
    exact (noFile_mem hlog s f).1.mpr (h.closedOpened ((noFile_mem hlog s f).2.mp he))
  openedLt := by
    intro s f he
    exact Nat.lt_of_lt_of_le (h.openedLt ((noFile_mem hlog s f).1.mp he)) hnext
  once := by
    intro s f
    rw [noFile_count hlog]
    exact h.once s f

/-- The open callback returns a number nobody had. -/
theorem opened {s : Fd} {l : List Event} (h : Ownership m)
    (hfree : m.asio.kernel.files.lookup s = none) (hl : Appends NoFile m.log l)
    (hlog : m'.log = l ++ [.opened s m.asio.kernel.nextFile])
    (hfiles : m'.asio.kernel.files = m.asio.kernel.files.insert s m.asio.kernel.nextFile)
    (hnext : m'.asio.kernel.nextFile = m.asio.kernel.nextFile + 1) (hmapped : Mapped m' s)
    (hkeep : ∀ {s f}, m.Holds s f → Mapped m' s) : Ownership m' := by
  have hopened : ∀ {s' f}, .opened s' f ∈ m'.log ↔
      .opened s' f ∈ m.log ∨ (s' = s ∧ f = m.asio.kernel.nextFile) := by
    intro s' f
    rw [hlog, List.mem_append, (noFile_mem hl s' f).1, List.mem_singleton, Event.opened.injEq]
  have hclosed : ∀ {s' f}, .closed s' f ∈ m'.log ↔ .closed s' f ∈ m.log := by
    intro s' f
    rw [hlog, List.mem_append, (noFile_mem hl s' f).2, List.mem_singleton]
    simp
  refine ⟨?_, ?_, ?_, ?_⟩
  · intro s' f hf
    obtain ⟨hop, hcl⟩ := hf
    rw [hclosed] at hcl
    rw [hfiles, Table.lookup_insert_if]
    rcases hopened.mp hop with hold | ⟨rfl, rfl⟩
    · -- a number libcurl holds is open, so it is not the one handed out
      have hne : s' ≠ s := by
        intro he
        rw [← he, (h.held ⟨hold, hcl⟩).1] at hfree
        simp at hfree
      rw [if_neg hne]
      exact ⟨(h.held ⟨hold, hcl⟩).1, hkeep ⟨hold, hcl⟩⟩
    · rw [if_pos rfl]
      exact ⟨rfl, hmapped⟩
  · intro s' f he
    exact hopened.mpr (Or.inl (h.closedOpened (hclosed.mp he)))
  · intro s' f he
    rw [hnext]
    rcases hopened.mp he with hold | ⟨-, rfl⟩
    · exact Nat.lt_succ_of_lt (h.openedLt hold)
    · exact Nat.lt_succ_self _
  · intro s' f
    rw [hlog, List.count_append, noFile_count hl]
    simpa [List.count_singleton] using h.once s' f

/-- The close callback closes what libcurl holds. -/
theorem closed {s : Fd} {f : FileId} (h : Ownership m) (hheld : m.Holds s f)
    (hlog : m'.log = m.log ++ [.closed s f])
    (hfiles : m'.asio.kernel.files = m.asio.kernel.files.erase s)
    (hnext : m'.asio.kernel.nextFile = m.asio.kernel.nextFile)
    (hkeep : ∀ {s' f'}, m.Holds s' f' → s' ≠ s → Mapped m' s') : Ownership m' := by
  have hopened : ∀ {s' f'}, .opened s' f' ∈ m'.log ↔ .opened s' f' ∈ m.log := by
    intro s' f'
    rw [hlog, List.mem_append, List.mem_singleton]
    simp
  have hclosed : ∀ {s' f'}, .closed s' f' ∈ m'.log ↔
      .closed s' f' ∈ m.log ∨ (s' = s ∧ f' = f) := by
    intro s' f'
    rw [hlog, List.mem_append, List.mem_singleton, Event.closed.injEq]
  refine ⟨?_, ?_, ?_, ?_⟩
  · intro s' f' hf
    obtain ⟨hop, hcl⟩ := hf
    rw [hclosed, not_or] at hcl
    have hold : m.Holds s' f' := ⟨hopened.mp hop, hcl.1⟩
    have hne : s' ≠ s := by
      intro he
      subst he
      exact hcl.2 ⟨rfl, h.holds_unique hold hheld⟩
    rw [hfiles, Table.lookup_erase_if, if_neg hne]
    exact ⟨(h.held hold).1, hkeep hold hne⟩
  · intro s' f' he
    rcases hclosed.mp he with hold | ⟨rfl, rfl⟩
    · exact hopened.mpr (h.closedOpened hold)
    · exact hopened.mpr hheld.1
  · intro s' f' he
    rw [hnext]
    exact h.openedLt (hopened.mp he)
  · intro s' f'
    rw [hlog, List.count_append, List.count_singleton]
    split
    · rename_i he
      obtain ⟨rfl, rfl⟩ := Event.closed.inj (beq_iff_eq.mp he)
      rw [List.count_eq_zero.mpr hheld.2]
    · exact h.once s' f'

/-- **Every lawful step keeps the ownership.** -/
theorem next {a : Action} (h : Ownership m) (ht : Tracking m) (hnat : Native m)
    (hc : Lawful m a) (hn : m.next a = some m') : Ownership m' := by
  have hkeep : ∀ {s f}, m.Holds s f → a ≠ .closeSocketCallback s → Mapped m' s :=
    fun hheld ha => (h.held hheld).2.next ht hnat hn ha
  cases h.fileStep ht hnat hc hn with
  | keep hclose hforeign hlog hfiles hnext =>
      refine h.unlogged hlog (fun {s f} hheld => ?_) (Nat.le_of_eq hnext.symm)
      rw [hfiles]
      exact ⟨(h.held hheld).1, hkeep hheld (hclose s)⟩
  | opened hfree hl hlog hfiles hnext hmapped =>
      exact h.opened hfree hl hlog hfiles hnext hmapped fun hheld => hkeep hheld (by simp)
  | closed hheld hlog hfiles hnext =>
      exact h.closed hheld hlog hfiles hnext fun hheld hne =>
        hkeep hheld (by simpa using Ne.symm hne)
  | @foreignOpen s _ hfree hlog hfiles hnext =>
      refine h.unlogged (hlog ▸ .refl _) (fun {s' f} hheld => ?_) ?_
      · have hne : s' ≠ s := by
          intro he
          rw [← he, (h.held hheld).1] at hfree
          simp at hfree
        rw [hfiles, Table.lookup_insert_if, if_neg hne]
        exact ⟨(h.held hheld).1, hkeep hheld (by simp)⟩
      · rw [hnext]
        exact Nat.le_succ _
  | @foreignClose s _ hnot hlog hfiles hnext =>
      refine h.unlogged (hlog ▸ .refl _) (fun {s' f} hheld => ?_) (Nat.le_of_eq hnext.symm)
      have hne : s' ≠ s := by
        intro he
        exact hnot ⟨f, he ▸ hheld⟩
      rw [hfiles, Table.lookup_erase_if, if_neg hne]
      exact ⟨(h.held hheld).1, hkeep hheld (by simp)⟩

end Ownership

theorem ownership (h : machine.Run Lawful tr m) : Ownership m :=
  h.invariant_of (I := fun m => Tracking m ∧ Native m) (fun hr => ⟨tracking hr, native hr⟩)
    ⟨by simp [machine, boot, Holds], by simp [machine, boot], by simp [machine, boot],
      by simp [machine, boot]⟩
    fun _ _ _ hI ho hc hn => ho.next hI.1 hI.2 hc hn

/-! ### Descriptor ownership -/

/-- What the module closed along a run, and what it did not. -/
structure DescriptorsOwned (tr : List Action) (m : CurlMulti) : Prop where
  /-- What the open callback returns is a file it opened under that number. -/
  returned : ∀ ⦃t₁ purpose family reply t₂ m₁ m₂ s⦄,
    tr = t₁ ++ .openSocketCallback purpose family reply :: t₂ → machine.Run Lawful t₁ m₁ →
    m₁.curlOpenSocketCallback purpose family reply = (m₂, .ok s) → s ≠ curlSocketBad →
    m₂.Holds s m₁.asio.kernel.nextFile
  /-- It stays open until the module has closed it. -/
  stays : ∀ ⦃s f⦄, m.Holds s f → m.asio.kernel.files.lookup s = some f
  /-- The close callback closes it, once, and no other step closes anything of the module's. -/
  closes : ∀ ⦃t₁ a t₂ m₁ m₂⦄, tr = t₁ ++ a :: t₂ → machine.Run Lawful t₁ m₁ →
    m₁.next a = some m₂ → ∀ s f, m₂.log.count (.closed s f)
      = m₁.log.count (.closed s f) + if a = .closeSocketCallback s ∧ m₁.Holds s f then 1 else 0
  once : ∀ s f, m.log.count (.closed s f) ≤ 1
  /-- A file the open callback did not return is left open, and is never logged as closed. -/
  foreign : ∀ ⦃t₁ a t₂ m₁ m₂⦄, tr = t₁ ++ a :: t₂ → machine.Run Lawful t₁ m₁ →
    m₁.next a = some m₂ → ∀ ⦃s f⦄, m₁.asio.kernel.files.lookup s = some f →
    .opened s f ∉ m₁.log → a ≠ .foreignClose s →
    m₂.asio.kernel.files.lookup s = some f ∧ .closed s f ∉ m₂.log

/-- **A descriptor is closed by the module iff libcurl got it from the open callback, once, and
in the close callback.** -/
theorem descriptors_owned (h : machine.Run Lawful tr m) : DescriptorsOwned tr m where
  returned := by
    rintro t₁ purpose family reply t₂ m₁ m₂ s rfl h₁ hopen hs
    have hm₁ := ownership h₁
    rcases curlOpenSocketCallback_ok hopen with ⟨-, hbad⟩ | ⟨-, a, o, ho⟩
    · exact absurd hbad hs
    · obtain ⟨l, hl, hlog⟩ := ho.log
      refine ⟨by simp [hlog], fun hc => ?_⟩
      rw [hlog, List.mem_append, (noFile_mem (hl.mono fun _ => Quiet.noFile) _ _).2] at hc
      -- the file is new, so it has not been closed before
      have hold := hm₁.closedOpened (hc.resolve_right (by simp))
      exact Nat.lt_irrefl _ (hm₁.openedLt hold)
  stays := fun s f hheld => ((ownership h).held hheld).1
  closes := by
    rintro t₁ a t₂ m₁ m₂ rfl h₁ hn s f
    obtain ⟨s₁, -, hs₁, hc, -, -⟩ := h.split
    obtain rfl := hs₁.unique h₁
    cases (ownership h₁).fileStep (tracking h₁) (native h₁) hc hn with
    | keep hclose hforeign hlog hfiles hnext =>
        rw [noFile_count hlog, if_neg fun hc => hclose s hc.1, Nat.add_zero]
    | opened hfree hl hlog hfiles hnext hmapped =>
        rw [hlog, List.count_append, noFile_count hl]
        simp
    | @closed s' f' _ hheld hlog hfiles hnext =>
        rw [hlog, List.count_append, List.count_singleton]
        congr 1
        by_cases he : s' = s ∧ f' = f
        · obtain ⟨rfl, rfl⟩ := he
          rw [if_pos (by simp), if_pos ⟨rfl, hheld⟩]
        · rw [if_neg (by simpa using he), if_neg]
          rintro ⟨hs', hheld'⟩
          obtain rfl := Action.closeSocketCallback.inj hs'
          exact he ⟨rfl, (ownership h₁).holds_unique hheld hheld'⟩
    | foreignOpen hfree hlog hfiles hnext => simp [hlog]
    | foreignClose hnot hlog hfiles hnext => simp [hlog]
  once := (ownership h).once
  foreign := by
    rintro t₁ a t₂ m₁ m₂ rfl h₁ hn s f hfile hnot hforeign
    obtain ⟨s₁, -, hs₁, hc, -, -⟩ := h.split
    obtain rfl := hs₁.unique h₁
    have hm₁ := ownership h₁
    have hunclosed : .closed s f ∉ s₁.log := fun hcl => hnot (hm₁.closedOpened hcl)
    cases hm₁.fileStep (tracking h₁) (native h₁) hc hn with
    | keep hclose hforeign' hlog hfiles hnext =>
        exact ⟨by rw [hfiles]; exact hfile, fun hcl => hunclosed ((noFile_mem hlog s f).2.mp hcl)⟩
    | @opened purpose family s' _ l hfree hl hlog hfiles hnext hmapped =>
        have hne : s ≠ s' := by
          rintro rfl
          rw [hfree] at hfile
          simp at hfile
        rw [hfiles, Table.lookup_insert_if, if_neg hne, hlog, List.mem_append,
          (noFile_mem hl s f).2]
        exact ⟨hfile, by simpa using hunclosed⟩
    | @closed s' f' _ hheld hlog hfiles hnext =>
        -- what is closed is held, and this file is not
        have hne : s ≠ s' := by
          rintro rfl
          have := (hm₁.held hheld).1
          rw [hfile] at this
          obtain rfl := Option.some.inj this
          exact hnot hheld.1
        rw [hfiles, Table.lookup_erase_if, if_neg hne, hlog, List.mem_append, List.mem_singleton]
        refine ⟨hfile, ?_⟩
        rintro (hcl | hcl)
        · exact hunclosed hcl
        · exact hne (Event.closed.inj hcl).1
    | @foreignOpen s' _ hfree hlog hfiles hnext =>
        have hne : s ≠ s' := by
          rintro rfl
          rw [hfree] at hfile
          simp at hfile
        rw [hfiles, Table.lookup_insert_if, if_neg hne, hlog]
        exact ⟨hfile, hunclosed⟩
    | @foreignClose s' _ hheld hlog hfiles hnext =>
        have hne : s ≠ s' := fun he => hforeign (by rw [he])
        rw [hfiles, Table.lookup_erase_if, if_neg hne, hlog]
        exact ⟨hfile, hunclosed⟩

/-- A connection is opened, watched, removed for keep-alive and closed; c-ares's socket 6 is
wrapped, removed, closed by c-ares, and its number handed out again. -/
def handedAround : List Action :=
  [.openSocketCallback .ipcxn .inet (some 5),
   .socketCallback 5 CURL_POLL_IN .none none,
   .foreignOpen 6,
   .socketCallback 6 CURL_POLL_IN .none none,
   .socketCallback 5 CURL_POLL_REMOVE .none none,
   .foreignClose 6,
   .openSocketCallback .ipcxn .inet (some 6),
   .closeSocketCallback 5]

def handedOver : CurlMulti := (machine.exec Lawful boot handedAround).get (by decide)

theorem descriptors_owned_handedOver : DescriptorsOwned handedAround handedOver :=
  descriptors_owned (Machine.run_of_exec (Option.some_get _).symm)

end CurlMulti

end AmxxCurl
