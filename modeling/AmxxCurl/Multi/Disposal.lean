/-
The destructor of `CurlMulti`, and what becomes of the descriptors.

A descriptor that libcurl got from the open callback is closed in the close callback, or,
if libcurl never asks for that, when `socket_map_` is destroyed with the rest of the
object.  Nothing else closes one, and an entry that is gone from the map cannot be closed
again; so over the whole life of the object every such descriptor is closed exactly once.

The destructor closes whatever is open under the numbers that are left in the map.  For a
descriptor of somebody else's (c-ares's) that is right only if libcurl has sent its REMOVE
before, which is what takes the number out without closing it.
-/
import AmxxCurl.Multi.Ownership

namespace AmxxCurl

namespace CurlMulti

variable {m m' : CurlMulti} {s : Fd} {o : SockId} {order : List Fd}

/-- One entry of `socket_map_` is destroyed. -/
def dropSocket (m : CurlMulti) (s : Fd) : CurlMulti :=
  match m.socketMap.lookup s with
  | none => m
  | some o => { m.destroySocket o with socketMap := m.socketMap.erase s }

/-- `socket_map_` is destroyed, in the order it keeps its entries in. -/
def dropSockets (m : CurlMulti) (order : List Fd) : CurlMulti := order.foldl dropSocket m

/-- `CurlMulti::~CurlMulti`: `Shutdown`, and then the members, the last one first. -/
def destruct (m : CurlMulti) (order : List Fd) : CurlMulti :=
  { m.shutdown with
    removedSockets := ∅
    socketDataMap := ∅ }.dropSockets order

/-- An order of the entries of `socket_map_`. -/
def SocketOrder (m : CurlMulti) (order : List Fd) : Prop :=
  order.Nodup ∧ order.toFinset = m.socketMap.keys

instance (m : CurlMulti) (order : List Fd) : Decidable (m.SocketOrder order) :=
  inferInstanceAs (Decidable (_ ∧ _))

theorem SocketOrder.mem (h : m.SocketOrder order) :
    s ∈ order ↔ (m.socketMap.lookup s).isSome = true := by
  rw [← List.mem_toFinset, h.2, Finmap.mem_keys, Finmap.lookup_isSome]

/-! ### The entries -/

/-- What the destruction of the entries relies on. -/
structure Mapping (m : CurlMulti) : Prop where
  native : Native m
  inj : Table.Injective m.socketMap

/-- `m'` is `m` with the numbers in `gone` unmapped and closed. -/
structure Closes (m : CurlMulti) (gone : List Fd) (m' : CurlMulti) : Prop where
  socketMap : ∀ s, m'.socketMap.lookup s = if s ∈ gone then none else m.socketMap.lookup s
  files : ∀ s, m'.asio.kernel.files.lookup s =
    if s ∈ gone then none else m.asio.kernel.files.lookup s
  closed : ∀ s f, m'.log.count (.closed s f) = m.log.count (.closed s f) +
    if s ∈ gone ∧ m.asio.kernel.files.lookup s = some f then 1 else 0

theorem Closes.nil (m : CurlMulti) : Closes m [] m :=
  ⟨fun s => by simp, fun s => by simp, fun s f => by simp⟩

/-- The entry of a number: what is open under the number is closed. -/
theorem Mapping.dropSocket (h : Mapping m) (ho : m.socketMap.lookup s = some o) :
    Closes m [s] (m.dropSocket s) ∧ Mapping (m.dropSocket s) := by
  have hnative := h.native ho
  obtain ⟨hsocks, hfiles, -⟩ := Asio.destroy_socks hnative
  obtain ⟨hasio, -⟩ := Tracking.destroySocket_asio m o
  have hdrop : m.dropSocket s = { m.destroySocket o with socketMap := m.socketMap.erase s } := by
    unfold CurlMulti.dropSocket
    rw [ho]
  have hlog : ∀ s' f, (m.destroySocket o).log.count (.closed s' f) = m.log.count (.closed s' f) +
      if s' = s ∧ m.asio.kernel.files.lookup s = some f then 1 else 0 := by
    intro s' f
    unfold destroySocket
    rw [hnative]
    dsimp only
    cases hopen : m.asio.kernel.files.lookup s with
    | none => simp
    | some f' =>
        show (m.log ++ [Event.closed s f']).count _ = _
        rw [List.count_append, List.count_singleton]
        congr 1
        by_cases he : s = s' ∧ f' = f
        · obtain ⟨rfl, rfl⟩ := he
          rw [if_pos (by simp), if_pos ⟨rfl, rfl⟩]
        · rw [if_neg (by simpa using he), if_neg]
          rintro ⟨rfl, hf⟩
          exact he ⟨rfl, Option.some.inj hf⟩
  rw [hdrop]
  refine ⟨⟨fun s' => ?_, fun s' => ?_, fun s' f => ?_⟩, ?_, h.inj.erase s⟩
  · simp only [List.mem_singleton]
    exact Table.lookup_erase_if ..
  · simp only [List.mem_singleton]
    show (m.destroySocket o).asio.kernel.files.lookup s' = _
    rw [hasio, hfiles]
    exact Table.lookup_erase_if ..
  · simp only [List.mem_singleton]
    show (m.destroySocket o).log.count _ = _
    rw [hlog]
    congr 1
    by_cases hs : s' = s
    · rw [hs]
    · rw [if_neg fun hc => hs hc.1, if_neg fun hc => hs hc.1]
  · -- no other entry has the object that was destroyed
    intro s' o' ho'
    obtain ⟨hne, ho'⟩ := Table.lookup_erase_eq_some.mp ho'
    show ((m.destroySocket o).asio.socks.cell o').native = some s'
    have hoo : o' ≠ o := fun he => hne (h.inj (he ▸ ho') ho)
    rw [hasio, hsocks, Heap.modify_cell_ne _ _ hoo]
    exact h.native ho'

/-- All of them, in any order. -/
theorem Mapping.dropSockets (h : Mapping m) (hnodup : order.Nodup)
    (hmem : ∀ s ∈ order, ∃ o, m.socketMap.lookup s = some o) :
    Closes m order (m.dropSockets order) := by
  induction order generalizing m with
  | nil => exact .nil m
  | cons s order ih =>
      obtain ⟨o, ho⟩ := hmem s (List.mem_cons_self ..)
      obtain ⟨hone, hmapping⟩ := h.dropSocket ho
      rw [List.nodup_cons] at hnodup
      have hrest : Closes (m.dropSocket s) order ((m.dropSocket s).dropSockets order) := by
        refine ih hmapping hnodup.2 fun s' hs' => ?_
        have hne : s' ≠ s := fun he => hnodup.1 (he ▸ hs')
        rw [hone.socketMap, if_neg (by simpa using hne)]
        exact hmem s' (List.mem_cons_of_mem _ hs')
      refine ⟨fun s' => ?_, fun s' => ?_, fun s' f => ?_⟩
      · show ((m.dropSocket s).dropSockets order).socketMap.lookup s' = _
        rw [hrest.socketMap, hone.socketMap]
        by_cases hs : s' = s <;> by_cases hs' : s' ∈ order <;> simp [hs, hs']
      · show ((m.dropSocket s).dropSockets order).asio.kernel.files.lookup s' = _
        rw [hrest.files, hone.files]
        by_cases hs : s' = s <;> by_cases hs' : s' ∈ order <;> simp [hs, hs']
      · show ((m.dropSocket s).dropSockets order).log.count _ = _
        rw [hrest.closed, hone.closed, hone.files, Nat.add_assoc]
        congr 1
        by_cases hs : s' = s
        · subst hs
          simp [hnodup.1]
        · simp [hs]

/-! ### Over a life -/

variable {C : CurlMulti → Action → Prop} {tr : List Action}

/-- A file that has been closed is not open any more. -/
theorem closed_gone (h : machine.Run Lawful tr m) :
    ∀ s f, .closed s f ∈ m.log → m.asio.kernel.files.lookup s ≠ some f := by
  refine h.invariant_of (I := fun m => (Tracking m ∧ Native m) ∧ Ownership m)
    (P := fun m => ∀ s f, .closed s f ∈ m.log → m.asio.kernel.files.lookup s ≠ some f)
    (fun hr => ⟨⟨tracking hr, native hr⟩, ownership hr⟩) (by simp [machine, boot]) ?_
  intro m a m' hinv ih hc hn
  obtain ⟨⟨ht, hnat⟩, hown⟩ := hinv
  -- the number of a new file is not that of a file closed before
  have hnew : ∀ {s s' : Fd} {f : FileId} {t : Table Fd FileId}, .closed s f ∈ m.log →
      t = m.asio.kernel.files.insert s' m.asio.kernel.nextFile → t.lookup s ≠ some f := by
    intro s s' f t hcl ht
    have hlt := hown.openedLt (hown.closedOpened hcl)
    rw [ht, Table.lookup_insert_if]
    split
    · exact fun he => Nat.ne_of_gt hlt (Option.some.inj he)
    · exact ih s f hcl
  have hold : ∀ {s s' : Fd} {f : FileId} {t : Table Fd FileId}, .closed s f ∈ m.log →
      t = m.asio.kernel.files.erase s' → t.lookup s ≠ some f := by
    intro s s' f t hcl ht
    rw [ht, Table.lookup_erase_if]
    split
    · simp
    · exact ih s f hcl
  intro s f hcl
  cases hown.fileStep ht hnat hc hn with
  | keep hclose hforeign hlog hfiles hnext =>
      rw [hfiles]
      exact ih s f ((noFile_mem hlog s f).2.mp hcl)
  | opened hfree hl hlog hfiles hnext hmapped =>
      rw [hlog, List.mem_append, (noFile_mem hl s f).2] at hcl
      exact hnew (hcl.resolve_right (by simp)) hfiles
  | closed hheld hlog hfiles hnext =>
      rw [hlog, List.mem_append, List.mem_singleton] at hcl
      rcases hcl with hcl | hcl
      · exact hold hcl hfiles
      · rw [hfiles, (Event.closed.inj hcl).1, Finmap.lookup_erase]
        simp
  | foreignOpen hfree hlog hfiles hnext => exact hnew (hlog ▸ hcl) hfiles
  | foreignClose hnot hlog hfiles hnext => exact hold (hlog ▸ hcl) hfiles

/-- `Shutdown` logs nothing about files. -/
theorem shutdown_log (m : CurlMulti) : Appends NoFile m.log m.shutdown.log := by
  unfold shutdown
  split
  · exact .one trivial
  · exact .refl _

/-- What the destructor closes, and what it leaves. -/
theorem destruct_closes (h : machine.Run C tr m) (horder : m.SocketOrder order) :
    Closes m order (m.destruct order) := by
  have hapart := Apart.shutdown m
  have hmap : Mapping { m.shutdown with
      removedSockets := ∅
      socketDataMap := ∅ } := by
    refine ⟨fun s o ho => ?_, ?_⟩
    · show (m.shutdown.asio.socks.cell o).native = some s
      rw [hapart.asio]
      exact native h (hapart.socketMap ▸ ho)
    · show Table.Injective m.shutdown.socketMap
      rw [hapart.socketMap]
      exact (tracking h).sockInj
  have hdrop := hmap.dropSockets horder.1 fun s hs => by
    show ∃ o, m.shutdown.socketMap.lookup s = some o
    rw [hapart.socketMap]
    exact Option.isSome_iff_exists.mp (horder.mem.mp hs)
  refine ⟨fun s => ?_, fun s => ?_, fun s f => ?_⟩
  · rw [← hapart.socketMap]
    exact hdrop.socketMap s
  · rw [← hapart.asio]
    exact hdrop.files s
  · rw [← hapart.asio, ← noFile_count (shutdown_log m)]
    exact hdrop.closed s f

/--
**Every descriptor of libcurl's is closed exactly once in the life of the object.**  When
the destructor has run, whatever was left in `socket_map_` and in whatever order it is
destroyed, each file the open callback returned has been closed once and is not open.  Any
other file is closed by the module if and only if it is open under a number that is still
mapped, and stays open otherwise.
-/
theorem descriptors_closed (h : machine.Run Lawful tr m) (horder : m.SocketOrder order) :
    (m.destruct order).socketMap = ∅ ∧
    (∀ s f, .opened s f ∈ m.log → (m.destruct order).log.count (.closed s f) = 1 ∧
      (m.destruct order).asio.kernel.files.lookup s ≠ some f) ∧
    ∀ s f, .opened s f ∉ m.log → m.asio.kernel.files.lookup s = some f →
      ((m.destruct order).log.count (.closed s f) =
        if (m.socketMap.lookup s).isSome then 1 else 0) ∧
      ((m.destruct order).asio.kernel.files.lookup s = some f ↔
        (m.socketMap.lookup s).isSome = false) := by
  have hcloses := destruct_closes h horder
  have hown := ownership h
  refine ⟨Finmap.ext_lookup fun s => ?_, fun s f hopened => ?_, fun s f hnot hfile => ?_⟩
  · rw [hcloses.socketMap, Finmap.lookup_empty]
    split
    · rfl
    · rename_i hno
      exact Option.not_isSome_iff_eq_none.mp fun hs => hno (horder.mem.mpr hs)
  · by_cases hclosed : .closed s f ∈ m.log
    · -- it was closed before, and its number names another file now, or none
      have hgone := closed_gone h s f hclosed
      have honce : m.log.count (.closed s f) = 1 :=
        Nat.le_antisymm (hown.once s f) (List.count_pos_iff.mpr hclosed)
      refine ⟨?_, ?_⟩
      · rw [hcloses.closed, if_neg fun hc => hgone hc.2, honce]
      · rw [hcloses.files]
        split
        · simp
        · exact hgone
    · obtain ⟨hfile, ⟨o, ho⟩, -⟩ := hown.held ⟨hopened, hclosed⟩
      have hmem : s ∈ order := horder.mem.mpr (by rw [ho]; rfl)
      refine ⟨?_, ?_⟩
      · rw [hcloses.closed, if_pos ⟨hmem, hfile⟩, List.count_eq_zero.mpr hclosed]
      · rw [hcloses.files, if_pos hmem]
        simp
  · have hnone : m.log.count (.closed s f) = 0 :=
      List.count_eq_zero.mpr fun hcl => hnot (hown.closedOpened hcl)
    rw [hcloses.closed, hcloses.files, hnone, hfile]
    by_cases hmem : s ∈ order
    · have hs := horder.mem.mp hmem
      simp [hmem, hs]
    · have hs : (m.socketMap.lookup s).isSome = false := by
        rw [← Bool.not_eq_true]
        exact fun hs => hmem (horder.mem.mpr hs)
      simp [hmem, hs]

/-- Socket 5 is closed by libcurl, 7 is left in its pool; c-ares's 6 is still watched. -/
def leftBehind : List Action :=
  [.openSocketCallback .ipcxn .inet (some 5), .socketCallback 5 CURL_POLL_IN .none none,
    .foreignOpen 6, .socketCallback 6 CURL_POLL_IN .none none,
    .openSocketCallback .ipcxn .inet6 (some 7), .closeSocketCallback 5, .shutdown]

def abandoned : CurlMulti := (machine.exec Lawful boot leftBehind).get (by decide)

theorem descriptors_closed_abandoned :
    (abandoned.destruct [7, 6]).socketMap = ∅ ∧
    (∀ s f, .opened s f ∈ abandoned.log →
      (abandoned.destruct [7, 6]).log.count (.closed s f) = 1 ∧
      (abandoned.destruct [7, 6]).asio.kernel.files.lookup s ≠ some f) ∧
    ∀ s f, .opened s f ∉ abandoned.log → abandoned.asio.kernel.files.lookup s = some f →
      ((abandoned.destruct [7, 6]).log.count (.closed s f) =
        if (abandoned.socketMap.lookup s).isSome then 1 else 0) ∧
      ((abandoned.destruct [7, 6]).asio.kernel.files.lookup s = some f ↔
        (abandoned.socketMap.lookup s).isSome = false) := by
  have hrun : machine.Run Lawful leftBehind abandoned :=
    Machine.run_of_exec (Option.some_get _).symm
  exact descriptors_closed hrun (by decide)

end CurlMulti

end AmxxCurl
