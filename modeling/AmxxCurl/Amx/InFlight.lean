/-
The three records of what is in flight.

The flag of the object, `curl_map_` and libcurl's list change at different moments, so
between two of them they disagree.  `Records` says by how much: an object a `Perform`
of which is inside `curl_multi_add_handle` is not attached yet, one whose completion
is inside `curl_multi_remove_handle` is not mapped any more, and one `RemoveAllTasks`
has visited is neither, whatever its flag says.  Everywhere else the three agree.
-/
import AmxxCurl.Amx.Transfers

namespace AmxxCurl

open AmxCurlController

namespace Transfers

variable {N : Phase → Prop} {t t' : Transfers}

/-- The object has a handle number. -/
def IsLive (t : Transfers) (o : ObjId) : Prop := ∃ h, t.handles.lookup h = some o

/-- A `Perform` of the object is inside `curl_multi_add_handle`. -/
def Adding (t : Transfers) (o : ObjId) : Prop := ∃ p, (o, .adding p) ∈ t.tasks

/-- A completion of the object is inside `curl_multi_remove_handle`. -/
def Removing (t : Transfers) (o : ObjId) : Prop := ∃ p res, (o, .removing p res) ∈ t.tasks

/-- `RemoveAllTasks` has visited the object. -/
def Dropped (t : Transfers) (o : ObjId) : Prop :=
  match t.phase with
  | .removing _ todo => ∃ h, t.handles.lookup h = some o ∧ h ∉ todo
  | .clearing _ _ => True
  | _ => False

/-- The flag and the multi, for each phase. -/
def Flags (t : Transfers) : Prop :=
  match t.phase with
  | .running | .draining => t.isDetached = false ∧ t.curlMulti = true
  | .removing _ _ => t.isDetached = true ∧ t.curlMulti = true
  | .clearing actor _ | .shutdown actor =>
      t.isDetached = true ∧ (actor = .destructor ∨ t.curlMulti = true)
  | .globalCleanup | .detached | .gone => t.isDetached = true ∧ t.curlMulti = false
  | .exiting => t.isDetached = !t.curlMulti

/-! ### Who has which easy handle -/

/-- Easy handles belong to live objects, and so does what is recorded under them. -/
structure Owned (t : Transfers) : Prop where
  handleInj : t.handles.Injective
  objLt : ∀ ⦃o⦄, t.IsLive o → o < t.objs.next
  easy : ∀ {e o}, t.easies.lookup e = some o ↔ t.IsLive o ∧ (t.obj o).curl = e
  mapOwner : ∀ ⦃e o⦄, t.curlMap.lookup e = some o → t.easies.lookup e = some o
  attachOwner : ∀ ⦃e p⦄, t.attached.lookup e = some p → ∃ o, t.easies.lookup e = some o
  queued : ∀ ⦃e p res⦄, (e, p, res) ∈ t.messages → t.attached.lookup e = some p
  dead : t.curlMulti = false → ∀ e, t.attached.lookup e = none

namespace Owned

theorem boot : Owned boot where
  handleInj := by
    intro i j o hi
    simp [Transfers.boot] at hi
  objLt := by
    rintro o ⟨h, hh⟩
    simp [Transfers.boot] at hh
  easy := by simp [Transfers.boot, IsLive]
  mapOwner := by simp [Transfers.boot]
  attachOwner := by simp [Transfers.boot]
  queued := by simp [Transfers.boot]
  dead := by simp [Transfers.boot]

/-- Two live objects do not share an easy handle. -/
theorem curl_inj (h : Owned t) {o o' : ObjId} (ho : t.IsLive o) (ho' : t.IsLive o')
    (he : (t.obj o).curl = (t.obj o').curl) : o = o' := by
  have h₁ := h.easy.mpr ⟨ho, he⟩
  have h₂ := h.easy.mpr ⟨ho', rfl⟩
  exact Option.some.inj (h₁.symm.trans h₂)

/-- Changes to objects that leave their easy handles alone. -/
theorem objs (h : Owned t) {c : Heap Transfer} (hn : c.next = t.objs.next)
    (hc : ∀ o, (c.cell o).curl = (t.obj o).curl) : Owned { t with objs := c } where
  handleInj := h.handleInj
  objLt := by
    intro o ho
    show o < c.next
    rw [hn]
    exact h.objLt ho
  easy := by
    intro e o
    show _ ↔ _ ∧ (c.cell o).curl = e
    rw [hc]
    exact h.easy
  mapOwner := h.mapOwner
  attachOwner := h.attachOwner
  queued := h.queued
  dead := h.dead

theorem create (h : Owned t) {n : AmxCurlHandle} {e : CurlPtr} (he : t.easies.lookup e = none)
    (hn : t.handles.lookup n = none) : Owned (t.create n e) where
  handleInj := by
    refine h.handleInj.insert fun j hj => ?_
    exact absurd (h.objLt ⟨j, hj⟩) (Nat.lt_irrefl _)
  objLt := by
    rintro o ⟨j, hj⟩
    rcases Table.lookup_insert_eq_some.mp hj with ⟨-, rfl⟩ | ⟨-, hj⟩
    · exact Nat.lt_succ_self _
    · exact Nat.lt_succ_of_lt (h.objLt ⟨j, hj⟩)
  easy := by
    intro e' o
    have hlive : (t.create n e).IsLive o ↔ o = t.objs.next ∨ t.IsLive o := by
      constructor
      · rintro ⟨j, hj⟩
        rcases Table.lookup_insert_eq_some.mp hj with ⟨-, rfl⟩ | ⟨-, hj⟩
        · exact Or.inl rfl
        · exact Or.inr ⟨j, hj⟩
      · rintro (rfl | ⟨j, hj⟩)
        · exact ⟨n, Finmap.lookup_insert _⟩
        · refine ⟨j, (Finmap.lookup_insert_of_ne _ ?_).trans hj⟩
          rintro rfl
          rw [hn] at hj
          simp at hj
    have hobj : ((t.create n e).obj o).curl = if o = t.objs.next then e else (t.obj o).curl := by
      show ((t.objs.alloc (.new e)).cell o).curl = _
      rw [Heap.alloc_cell]
      split <;> rfl
    show (t.easies.insert e t.objs.next).lookup e' = some o ↔ _
    rw [hlive, hobj, Table.lookup_insert_eq_some]
    by_cases ho : o = t.objs.next
    · subst ho
      have hnew : ∀ {e'}, t.easies.lookup e' ≠ some t.objs.next := by
        intro e' he'
        exact absurd (h.objLt (h.easy.mp he').1) (Nat.lt_irrefl _)
      simp [hnew, eq_comm]
    · simp only [ho, and_false, false_or, if_neg, not_false_eq_true, h.easy]
      constructor
      · exact fun ⟨_, h'⟩ => h'
      · intro h'
        refine ⟨?_, h'⟩
        rintro rfl
        rw [h.easy.mpr h'] at he
        simp at he
  mapOwner := by
    intro e' o hm
    have hold := h.mapOwner hm
    refine (Finmap.lookup_insert_of_ne _ ?_).trans hold
    rintro rfl
    rw [he] at hold
    simp at hold
  attachOwner := by
    intro e' p ha
    obtain ⟨o, ho⟩ := h.attachOwner ha
    refine ⟨o, (Finmap.lookup_insert_of_ne _ ?_).trans ho⟩
    rintro rfl
    rw [he] at ho
    simp at ho
  queued := h.queued
  dead := h.dead

theorem alloc (h : Owned t) {e : CurlPtr} : Owned (t.alloc e) := by
  have hcell : ∀ {o}, t.IsLive o → (t.objs.alloc (.new e)).cell o = t.obj o := by
    intro o ho
    exact Heap.alloc_cell_lt _ _ (h.objLt ho)
  refine ⟨h.handleInj, fun o ho => Nat.lt_succ_of_lt (h.objLt ho), ?_, h.mapOwner,
    h.attachOwner, h.queued, h.dead⟩
  intro e' o
  refine h.easy.trans (and_congr_right fun ho => ?_)
  show _ ↔ ((t.objs.alloc (.new e)).cell o).curl = e'
  rw [hcell ho]

/-- Only an object that is nowhere recorded may be destroyed. -/
theorem destroy (h : Owned t) {n : AmxCurlHandle} {o : ObjId} (hn : t.handles.lookup n = some o)
    (hmap : t.curlMap.lookup (t.obj o).curl = none)
    (hatt : t.attached.lookup (t.obj o).curl = none) : Owned (t.destroy n o) where
  handleInj := h.handleInj.erase n
  objLt := by
    rintro o' ⟨j, hj⟩
    exact h.objLt ⟨j, (Table.lookup_erase_eq_some.mp hj).2⟩
  easy := by
    intro e o'
    show (t.easies.erase (t.obj o).curl).lookup e = some o' ↔ _
    rw [Table.lookup_erase_eq_some, h.easy]
    constructor
    · rintro ⟨hne, ⟨j, hj⟩, hcurl⟩
      refine ⟨⟨j, Table.lookup_erase_eq_some.mpr ⟨?_, hj⟩⟩, hcurl⟩
      rintro rfl
      rw [hn] at hj
      obtain rfl := Option.some.inj hj
      exact hne hcurl.symm
    · rintro ⟨⟨j, hj⟩, hcurl⟩
      obtain ⟨hne, hold⟩ := Table.lookup_erase_eq_some.mp hj
      refine ⟨?_, ⟨j, hold⟩, hcurl⟩
      rintro rfl
      obtain rfl := h.curl_inj ⟨j, hold⟩ ⟨n, hn⟩ hcurl
      exact hne (h.handleInj hold hn)
  mapOwner := by
    intro e o' hm
    refine Table.lookup_erase_eq_some.mpr ⟨?_, h.mapOwner hm⟩
    rintro rfl
    exact absurd (hmap.symm.trans hm) (by simp)
  attachOwner := by
    intro e p ha
    obtain ⟨o', ho'⟩ := h.attachOwner ha
    refine ⟨o', Table.lookup_erase_eq_some.mpr ⟨?_, ho'⟩⟩
    rintro rfl
    exact absurd (hatt.symm.trans ha) (by simp)
  queued := h.queued
  dead := h.dead

theorem mapErase (h : Owned t) (e : CurlPtr) : Owned { t with curlMap := t.curlMap.erase e } :=
  { h with mapOwner := fun _ _ hm => h.mapOwner (Table.lookup_erase_eq_some.mp hm).2 }

theorem mapInsert (h : Owned t) {o : ObjId} (ho : t.IsLive o) :
    Owned { t with curlMap := t.curlMap.insert (t.obj o).curl o } := by
  refine { h with mapOwner := fun e o' hm => ?_ }
  rcases Table.lookup_insert_eq_some.mp hm with ⟨rfl, rfl⟩ | ⟨-, hm⟩
  · exact h.easy.mpr ⟨ho, rfl⟩
  · exact h.mapOwner hm

theorem attach (h : Owned t) {o : ObjId} {p : PerformId} (ho : t.IsLive o)
    (hm : t.curlMulti = true) (hfree : t.attached.lookup (t.obj o).curl = none) :
    Owned { t with attached := t.attached.insert (t.obj o).curl p } := by
  refine { h with attachOwner := ?_, queued := ?_, dead := ?_ }
  · intro e p' ha
    rcases Table.lookup_insert_eq_some.mp ha with ⟨rfl, -⟩ | ⟨-, ha⟩
    · exact ⟨o, h.easy.mpr ⟨ho, rfl⟩⟩
    · exact h.attachOwner ha
  · intro e p' res hmsg
    have hq := h.queued hmsg
    refine (Finmap.lookup_insert_of_ne _ ?_).trans hq
    rintro rfl
    rw [hfree] at hq
    simp at hq
  · intro hdead
    rw [show t.curlMulti = false from hdead] at hm
    simp at hm

theorem detach (h : Owned t) (o : ObjId) : Owned (t.detach o) := by
  refine { h with attachOwner := ?_, queued := ?_, dead := ?_ }
  · intro e p ha
    exact h.attachOwner (Table.lookup_erase_eq_some.mp ha).2
  · intro e p res hmsg
    obtain ⟨hmsg, hne⟩ := List.mem_filter.mp hmsg
    exact Table.lookup_erase_eq_some.mpr ⟨by simpa using hne, h.queued hmsg⟩
  · intro hdead e
    show (t.attached.erase _).lookup e = none
    rw [Table.lookup_erase_if]
    split
    · rfl
    · exact h.dead hdead e

theorem messages (h : Owned t) {ms : List (CurlPtr × PerformId × CurlCode)}
    (hms : ∀ msg ∈ ms, msg ∈ t.messages ∨ t.attached.lookup msg.1 = some msg.2.1) :
    Owned { t with messages := ms } := by
  refine { h with queued := fun e p res hmsg => ?_ }
  rcases hms _ hmsg with hmsg | ha
  · exact h.queued hmsg
  · exact ha

end Owned

/-! ### The records of one object -/

/-- How the three records of `o` go together. -/
structure Agree (t : Transfers) (o : ObjId) : Prop where
  mapped : (t.curlMap.lookup (t.obj o).curl).isSome ↔
    (t.obj o).inProgress = true ∧ ¬t.Removing o ∧ ¬t.Dropped o
  attached : (t.attached.lookup (t.obj o).curl).isSome ↔
    (t.obj o).inProgress = true ∧ ¬t.Adding o ∧ ¬t.Dropped o

/-- An object that a step does not touch. -/
structure SameRow (t t' : Transfers) (o : ObjId) : Prop where
  curl : (t'.obj o).curl = (t.obj o).curl
  inProgress : (t'.obj o).inProgress = (t.obj o).inProgress
  curlMap : t'.curlMap.lookup (t.obj o).curl = t.curlMap.lookup (t.obj o).curl
  attached : t'.attached.lookup (t.obj o).curl = t.attached.lookup (t.obj o).curl
  tasks : ∀ k, (o, k) ∈ t'.tasks ↔ (o, k) ∈ t.tasks
  dropped : t'.Dropped o ↔ t.Dropped o

theorem Agree.same {o : ObjId} (h : Agree t o) (hs : SameRow t t' o) : Agree t' o where
  mapped := by
    rw [hs.curl, hs.curlMap, h.mapped]
    unfold Removing
    simp only [hs.inProgress, hs.tasks, hs.dropped]
  attached := by
    rw [hs.curl, hs.attached, h.attached]
    unfold Adding
    simp only [hs.inProgress, hs.tasks, hs.dropped]

theorem not_dropped (hlive : t.phase.IsLive) (o : ObjId) : ¬t.Dropped o := by
  unfold Dropped
  rcases hlive with h | h | h <;> rw [h] <;> exact not_false

/-- What is known of the transfers at any time. -/
structure Records (t : Transfers) : Prop extends Owned t where
  flags : t.Flags
  tasksLive : t.tasks ≠ [] → t.phase.IsLive
  nodup : (t.tasks.map Prod.fst).Nodup
  busy : ∀ ⦃o k⦄, (o, k) ∈ t.tasks → t.IsLive o ∧ (t.obj o).inProgress = true
  removing : ∀ ⦃o p res⦄, (o, .removing p res) ∈ t.tasks →
    t.attached.lookup (t.obj o).curl = some p
  agree : ∀ ⦃o⦄, t.IsLive o → Agree t o
  todo : ∀ ⦃actor todo⦄, t.phase = .removing actor todo → todo.Nodup
  clearing : ∀ ⦃actor todo⦄, t.phase = .clearing actor todo →
    ∀ ⦃h o⦄, t.handles.lookup h = some o → h ∈ todo
  emptied : t.phase.IsOver → ∀ h, t.handles.lookup h = none

namespace Records

theorem boot : Records boot where
  toOwned := .boot
  flags := ⟨rfl, rfl⟩
  tasksLive := by simp [Transfers.boot]
  nodup := List.nodup_nil
  busy := by simp [Transfers.boot]
  removing := by simp [Transfers.boot]
  agree := by
    rintro o ⟨h, hh⟩
    simp [Transfers.boot] at hh
  todo := by simp [Transfers.boot]
  clearing := by simp [Transfers.boot]
  emptied := by simp [Transfers.boot, Phase.IsOver]

/-- An idle object is on no record. -/
theorem idle (h : Records t) {o : ObjId} (ho : t.IsLive o)
    (hidle : (t.obj o).inProgress = false) :
    t.curlMap.lookup (t.obj o).curl = none ∧ t.attached.lookup (t.obj o).curl = none ∧
      ∀ k, (o, k) ∉ t.tasks := by
  refine ⟨?_, ?_, ?_⟩
  · rw [← Option.not_isSome_iff_eq_none, (h.agree ho).mapped, hidle]
    simp
  · rw [← Option.not_isSome_iff_eq_none, (h.agree ho).attached, hidle]
    simp
  · intro k hk
    rw [(h.busy hk).2] at hidle
    simp at hidle

/-- What a live phase excludes. -/
theorem live_only (hlive : t.phase.IsLive) :
    (∀ actor todo, t.phase ≠ .removing actor todo) ∧ (∀ actor todo, t.phase ≠ .clearing actor todo) ∧
      ¬t.phase.IsOver := by
  rcases hlive with h | h | h <;> rw [h] <;> simp [Phase.IsOver]

theorem create (h : Records t) {n : AmxCurlHandle} {e : CurlPtr} (hlive : t.phase.IsLive)
    (he : t.easies.lookup e = none) (hn : t.handles.lookup n = none) : Records (t.create n e) := by
  have hcell : ∀ {o}, t.IsLive o → (t.objs.alloc (.new e)).cell o = t.obj o :=
    fun ho => Heap.alloc_cell_lt _ _ (h.objLt ho)
  have hold : ∀ {o}, t.IsLive o → (t.create n e).IsLive o := by
    rintro o ⟨j, hj⟩
    refine ⟨j, (Finmap.lookup_insert_of_ne _ ?_).trans hj⟩
    rintro rfl
    rw [hn] at hj
    simp at hj
  obtain ⟨hrem, hclr, hover⟩ := live_only hlive
  exact {
    toOwned := h.toOwned.create he hn
    flags := h.flags
    tasksLive := h.tasksLive
    nodup := h.nodup
    busy := by
      intro o k hk
      obtain ⟨ho, hp⟩ := h.busy hk
      refine ⟨hold ho, ?_⟩
      show ((t.objs.alloc (.new e)).cell o).inProgress = true
      rwa [hcell ho]
    removing := by
      intro o p res hk
      show t.attached.lookup ((t.objs.alloc (.new e)).cell o).curl = _
      rw [hcell (h.busy hk).1]
      exact h.removing hk
    agree := by
      rintro o ⟨j, hj⟩
      rcases Table.lookup_insert_eq_some.mp hj with ⟨-, rfl⟩ | ⟨-, hj⟩
      · -- the new object: its easy handle is on no record
        have hobj : (t.create n e).obj t.objs.next = .new e := Heap.alloc_cell_next _ _
        have hmap : t.curlMap.lookup e = none := by
          rw [Option.eq_none_iff_forall_ne_some]
          intro o hm
          rw [h.mapOwner hm] at he
          simp at he
        have hatt : t.attached.lookup e = none := by
          rw [Option.eq_none_iff_forall_ne_some]
          intro p ha
          obtain ⟨o, ho⟩ := h.attachOwner ha
          rw [ho] at he
          simp at he
        constructor
        · rw [hobj]
          show (t.curlMap.lookup e).isSome ↔ _
          simp [hmap, Transfer.new]
        · rw [hobj]
          show (t.attached.lookup e).isSome ↔ _
          simp [hatt, Transfer.new]
      · have ho : t.IsLive o := ⟨j, hj⟩
        refine (h.agree ho).same ⟨?_, ?_, rfl, rfl, fun _ => Iff.rfl, ?_⟩
        · exact congrArg Transfer.curl (hcell ho)
        · exact congrArg Transfer.inProgress (hcell ho)
        · exact iff_of_false (not_dropped (t := t.create n e) hlive o) (not_dropped hlive o)
    todo := fun a l hph => absurd hph (hrem a l)
    clearing := fun a l hph => absurd hph (hclr a l)
    emptied := fun ho => absurd ho hover }

theorem alloc (h : Records t) {e : CurlPtr} : Records (t.alloc e) := by
  have hcell : ∀ {o}, t.IsLive o → (t.objs.alloc (.new e)).cell o = t.obj o :=
    fun ho => Heap.alloc_cell_lt _ _ (h.objLt ho)
  exact { h with
    toOwned := h.toOwned.alloc
    busy := by
      intro o k hk
      obtain ⟨ho, hp⟩ := h.busy hk
      refine ⟨ho, ?_⟩
      show ((t.objs.alloc (.new e)).cell o).inProgress = true
      rwa [hcell ho]
    removing := by
      intro o p res hk
      show t.attached.lookup ((t.objs.alloc (.new e)).cell o).curl = _
      rw [hcell (h.busy hk).1]
      exact h.removing hk
    agree := fun o ho => (h.agree ho).same
      ⟨congrArg Transfer.curl (hcell ho), congrArg Transfer.inProgress (hcell ho), rfl, rfl,
        fun _ => Iff.rfl, Iff.rfl⟩ }

/-- The log is on no record. -/
theorem emit (h : Records t) {es : List Event} : Records (t.emit es) :=
  { h with agree := fun _ ho => (h.agree ho).same ⟨rfl, rfl, rfl, rfl, fun _ => Iff.rfl, Iff.rfl⟩ }

/-- Only an object that is on no record is destroyed. -/
theorem destroy (h : Records t) {n : AmxCurlHandle} {o : ObjId} (hn : t.handles.lookup n = some o)
    (hmap : t.curlMap.lookup (t.obj o).curl = none)
    (hatt : t.attached.lookup (t.obj o).curl = none) (htask : ∀ k, (o, k) ∉ t.tasks) :
    Records (t.destroy n o) := by
  have hlive : ∀ {o'}, (t.destroy n o).IsLive o' ↔ t.IsLive o' ∧ o' ≠ o := by
    intro o'
    constructor
    · rintro ⟨j, hj⟩
      obtain ⟨hne, hold⟩ := Table.lookup_erase_eq_some.mp hj
      refine ⟨⟨j, hold⟩, ?_⟩
      rintro rfl
      exact hne (h.handleInj hold hn)
    · rintro ⟨⟨j, hj⟩, hne⟩
      refine ⟨j, Table.lookup_erase_eq_some.mpr ⟨?_, hj⟩⟩
      rintro rfl
      exact hne (Option.some.inj (hj.symm.trans hn))
  have hdrop : ∀ {o'}, o' ≠ o → ((t.destroy n o).Dropped o' ↔ t.Dropped o') := by
    intro o' hne
    have hph : (t.destroy n o).phase = t.phase := rfl
    unfold Dropped
    rw [hph]
    split
    · refine exists_congr fun j => and_congr_left fun _ => ?_
      refine Table.lookup_erase_eq_some.trans (and_iff_right_of_imp fun hj => ?_)
      rintro rfl
      exact hne (Option.some.inj (hj.symm.trans hn))
    · exact Iff.rfl
    · exact Iff.rfl
  exact { h with
    toOwned := h.toOwned.destroy hn hmap hatt
    busy := by
      intro o' k hk
      refine ⟨hlive.mpr ⟨(h.busy hk).1, ?_⟩, (h.busy hk).2⟩
      rintro rfl
      exact htask k hk
    agree := by
      intro o' ho'
      obtain ⟨ho', hne⟩ := hlive.mp ho'
      exact (h.agree ho').same ⟨rfl, rfl, rfl, rfl, fun _ => Iff.rfl, hdrop hne⟩
    clearing := fun a l hph j o' hj => h.clearing hph (Table.lookup_erase_eq_some.mp hj).2
    emptied := by
      intro hover j
      rw [h.emptied hover n] at hn
      simp at hn }

/-- Changes to objects that leave easy handles and flags alone. -/
theorem setObj (h : Records t) {o : ObjId} {f : Transfer → Transfer}
    (hf : ∀ x, (f x).curl = x.curl ∧ (f x).inProgress = x.inProgress) : Records (t.setObj o f) := by
  have hobj : ∀ o', ((t.setObj o f).obj o').curl = (t.obj o').curl ∧
      ((t.setObj o f).obj o').inProgress = (t.obj o').inProgress := by
    intro o'
    simp only [Transfers.setObj, obj, Heap.modify_cell]
    split
    · rename_i heq
      rw [heq]
      exact hf _
    · exact ⟨rfl, rfl⟩
  exact { h with
    toOwned := h.toOwned.objs rfl fun o' => (hobj o').1
    busy := fun o' k hk => ⟨(h.busy hk).1, (hobj o').2.trans (h.busy hk).2⟩
    removing := by
      intro o' p res hk
      show t.attached.lookup ((t.setObj o f).obj o').curl = some p
      rw [(hobj o').1]
      exact h.removing hk
    agree := fun o' ho' => (h.agree ho').same
      ⟨(hobj o').1, (hobj o').2, rfl, rfl, fun _ => Iff.rfl, Iff.rfl⟩ }

/-- `curl_multi_add_handle` is called for an idle object. -/
theorem add (h : Records t) {o : ObjId} {args : PerformArgs} (hlive : t.phase.IsLive)
    (ho : t.IsLive o) (hidle : (t.obj o).inProgress = false) : Records (t.add o args) := by
  obtain ⟨hmap, hatt, htask⟩ := h.idle ho hidle
  have hcell : ∀ {o'}, o' ≠ o → (t.add o args).obj o' = t.obj o' :=
    fun hne => Heap.modify_cell_ne t.objs (·.start args) hne
  have hself : (t.add o args).obj o = (t.obj o).start args :=
    Heap.modify_cell_self t.objs o (·.start args)
  have hcurl : ∀ o', ((t.add o args).obj o').curl = (t.obj o').curl := by
    intro o'
    by_cases hne : o' = o
    · subst hne
      rw [hself]
      rfl
    · rw [hcell hne]
  have hcm : (t.add o args).curlMap = t.curlMap.insert (t.obj o).curl o := by
    show (if (t.curlMap.lookup (t.obj o).curl).isSome then _ else _) = _
    rw [hmap]
    rfl
  obtain ⟨hrem, hclr, hover⟩ := live_only hlive
  refine {
    toOwned := ?_
    flags := h.flags
    tasksLive := fun _ => hlive
    nodup := ?_
    busy := ?_
    removing := ?_
    agree := ?_
    todo := fun a l hph => absurd hph (hrem a l)
    clearing := fun a l hph => absurd hph (hclr a l)
    emptied := fun hov => absurd hov hover }
  · have hown := (h.toOwned.mapInsert ho).objs (c := (t.add o args).objs) rfl hcurl
    rw [← hcm] at hown
    exact { hown with }
  · refine List.nodup_cons.mpr ⟨fun hmem => ?_, h.nodup⟩
    obtain ⟨⟨o', k⟩, hk, rfl⟩ := List.mem_map.mp hmem
    exact htask k hk
  · intro o' k hk
    rcases List.mem_cons.mp hk with heq | hk
    · obtain ⟨rfl, -⟩ := Prod.mk.inj heq
      exact ⟨ho, by rw [hself]; rfl⟩
    · have hne : o' ≠ o := fun he => htask k (he ▸ hk)
      rw [hcell hne]
      exact h.busy hk
  · intro o' p res hk
    rcases List.mem_cons.mp hk with heq | hk
    · simp at heq
    · rw [hcurl]
      exact h.removing hk
  · intro o' ho'
    by_cases hne : o' = o
    · subst hne
      constructor
      · rw [hself, hcm]
        show ((t.curlMap.insert (t.obj o').curl o').lookup (t.obj o').curl).isSome ↔ true = true ∧ _
        have hnr : ¬(t.add o' args).Removing o' := by
          rintro ⟨p, res, hk⟩
          rcases List.mem_cons.mp hk with heq | hk
          · simp at heq
          · exact htask _ hk
        simpa [hnr] using not_dropped (t := t.add o' args) hlive o'
      · rw [hself]
        have hadd : (t.add o' args).Adding o' := ⟨_, List.mem_cons_self ..⟩
        show (t.attached.lookup (t.obj o').curl).isSome ↔ true = true ∧ _
        simp [hadd, hatt]
    · refine (h.agree ho').same ⟨hcurl o', congrArg Transfer.inProgress (hcell hne), ?_, rfl, ?_, ?_⟩
      · rw [hcm]
        exact Finmap.lookup_insert_of_ne _ fun he => hne (h.curl_inj ho' ho he)
      · intro k
        simp [Transfers.add, Transfers.emit, hne]
      · exact iff_of_false (not_dropped (t := t.add o args) hlive o') (not_dropped hlive o')

/-- The object of the innermost task is not in another one. -/
theorem head_task (h : Records t) {o : ObjId} {k : Task} {rest : List (ObjId × Task)}
    (hs : t.tasks = (o, k) :: rest) :
    t.IsLive o ∧ (t.obj o).inProgress = true ∧ t.phase.IsLive ∧ (rest.map Prod.fst).Nodup ∧
      ∀ k', (o, k') ∉ rest := by
  have hmem : (o, k) ∈ t.tasks := hs ▸ List.mem_cons_self ..
  have hnd := h.nodup
  rw [hs, List.map_cons, List.nodup_cons] at hnd
  refine ⟨(h.busy hmem).1, (h.busy hmem).2, h.tasksLive (List.ne_nil_of_mem hmem), hnd.2, ?_⟩
  intro k' hk'
  exact hnd.1 (List.mem_map.mpr ⟨_, hk', rfl⟩)

theorem added (h : Records t) {o : ObjId} {p : PerformId} {rest : List (ObjId × Task)}
    (hs : t.tasks = (o, .adding p) :: rest) (hm : t.curlMulti = true)
    (hfree : t.attached.lookup (t.obj o).curl = none) : Records (t.added o p rest) := by
  obtain ⟨ho, hprog, hlive, hnd, hrest⟩ := h.head_task hs
  obtain ⟨hrem, hclr, hover⟩ := live_only hlive
  have hsub : ∀ {x}, x ∈ rest → x ∈ t.tasks := fun hx => hs ▸ List.mem_cons_of_mem _ hx
  refine {
    toOwned := { h.toOwned.attach ho hm hfree with }
    flags := h.flags
    tasksLive := fun _ => hlive
    nodup := hnd
    busy := fun o' k hk => h.busy (hsub hk)
    removing := ?_
    agree := ?_
    todo := fun a l hph => absurd hph (hrem a l)
    clearing := fun a l hph => absurd hph (hclr a l)
    emptied := fun hov => absurd hov hover }
  · intro o' p' res hk
    refine (Finmap.lookup_insert_of_ne _ fun he => ?_).trans (h.removing (hsub hk))
    obtain rfl := h.curl_inj (h.busy (hsub hk)).1 ho he
    exact hrest _ hk
  · intro o' ho'
    have hnd' : ¬(t.added o p rest).Dropped o' := not_dropped (t := t.added o p rest) hlive o'
    by_cases hne : o' = o
    · subst hne
      constructor
      · have hmap := (h.agree ho).mapped
        rw [hprog] at hmap
        have hnr : ¬t.Removing o' := by
          rintro ⟨p', res, hk⟩
          rw [hs] at hk
          rcases List.mem_cons.mp hk with heq | hk
          · simp at heq
          · exact hrest _ hk
        have hnr' : ¬(t.added o' p rest).Removing o' := fun ⟨_, _, hk⟩ => hrest _ hk
        refine hmap.trans (iff_of_true ⟨rfl, hnr, not_dropped hlive o'⟩ ⟨hprog, hnr', hnd'⟩)
      · have hna : ¬(t.added o' p rest).Adding o' := fun ⟨_, hk⟩ => hrest _ hk
        refine iff_of_true ?_ ⟨hprog, hna, hnd'⟩
        show ((t.attached.insert (t.obj o').curl p).lookup (t.obj o').curl).isSome
        rw [Finmap.lookup_insert]
        rfl
    · refine (h.agree ho').same ⟨rfl, rfl, rfl, ?_, ?_, iff_of_false hnd' (not_dropped hlive o')⟩
      · exact Finmap.lookup_insert_of_ne _ fun he => hne (h.curl_inj ho' ho he)
      · intro k
        show _ ∈ rest ↔ _
        rw [hs, List.mem_cons, Prod.mk.injEq, or_iff_right fun hk => hne hk.1]

/-- A task is over, and its object idle: it is on no record any more. -/
theorem settle (h : Records t) {o : ObjId} {k : Task} {rest : List (ObjId × Task)}
    (hs : t.tasks = (o, k) :: rest) (hidle : (t'.obj o).inProgress = false)
    (hcurl : ∀ o', (t'.obj o').curl = (t.obj o').curl)
    (hobj : ∀ o', o' ≠ o → t'.obj o' = t.obj o')
    (hmap : t'.curlMap = t.curlMap.erase (t.obj o).curl)
    (hatt : t'.attached = t.attached.erase (t.obj o).curl)
    (htasks : t'.tasks = rest) (hown : Owned t') (hhandles : t'.handles = t.handles)
    (hphase : t'.phase = t.phase) (hflags : t'.Flags) : Records t' := by
  obtain ⟨ho, hprog, hlive, hnd, hrest⟩ := h.head_task hs
  have hlive' : t'.phase.IsLive := hphase ▸ hlive
  obtain ⟨hrem, hclr, hover⟩ := live_only hlive'
  have hsub : ∀ {x}, x ∈ rest → x ∈ t.tasks := fun hx => hs ▸ List.mem_cons_of_mem _ hx
  have hne : ∀ {o' k'}, (o', k') ∈ rest → o' ≠ o := fun hk he => hrest _ (he ▸ hk)
  have hlift : ∀ {o'}, t.IsLive o' → t'.IsLive o' := fun ⟨j, hj⟩ => ⟨j, hhandles ▸ hj⟩
  refine {
    toOwned := hown
    flags := hflags
    tasksLive := fun _ => hlive'
    nodup := htasks ▸ hnd
    busy := ?_
    removing := ?_
    agree := ?_
    todo := fun a l hph => absurd hph (hrem a l)
    clearing := fun a l hph => absurd hph (hclr a l)
    emptied := fun hov => absurd hov hover }
  · intro o' k' hk
    rw [htasks] at hk
    obtain ⟨hl, hp⟩ := h.busy (hsub hk)
    exact ⟨hlift hl, by rw [hobj o' (hne hk), hp]⟩
  · intro o' p res hk
    rw [htasks] at hk
    rw [hcurl, hatt, Finmap.lookup_erase_ne fun he => ?_]
    · exact h.removing (hsub hk)
    · exact hne hk (h.curl_inj (h.busy (hsub hk)).1 ho he)
  · rintro o' ⟨j, hj⟩
    have ho' : t.IsLive o' := ⟨j, hhandles ▸ hj⟩
    by_cases he : o' = o
    · subst he
      constructor
      · rw [hidle, hcurl, hmap, Finmap.lookup_erase]
        simp
      · rw [hidle, hcurl, hatt, Finmap.lookup_erase]
        simp
    · have hce : (t.obj o').curl ≠ (t.obj o).curl := fun hc => he (h.curl_inj ho' ho hc)
      refine (h.agree ho').same ⟨hcurl o', by rw [hobj o' he], ?_, ?_, ?_, ?_⟩
      · rw [hmap, Finmap.lookup_erase_ne hce]
      · rw [hatt, Finmap.lookup_erase_ne hce]
      · intro k'
        rw [htasks, hs, List.mem_cons, Prod.mk.injEq, or_iff_right fun hk => he hk.1]
      · exact iff_of_false (not_dropped hlive' o') (not_dropped hlive o')

theorem settle_curl {o : ObjId} (o' : ObjId) :
    ((t.objs.modify o .settle).cell o').curl = (t.obj o').curl := by
  rw [Heap.modify_cell]
  split
  · rename_i he
    rw [he]
    rfl
  · rfl

theorem addFailed (h : Records t) {o : ObjId} {p : PerformId} {rest : List (ObjId × Task)}
    (hs : t.tasks = (o, .adding p) :: rest) : Records (t.addFailed o rest) := by
  have hatt : t.attached.lookup (t.obj o).curl = none := by
    rw [← Option.not_isSome_iff_eq_none, (h.agree (h.head_task hs).1).attached]
    rintro ⟨-, hna, -⟩
    exact hna ⟨p, hs ▸ List.mem_cons_self ..⟩
  refine h.settle hs ?_ settle_curl (fun o' hne => Heap.modify_cell_ne t.objs .settle hne) rfl ?_ rfl
    ?_ rfl rfl h.flags
  · show ((t.objs.modify o .settle).cell o).inProgress = false
    rw [Heap.modify_cell_self]
    rfl
  · exact (Table.erase_none hatt).symm
  · exact { (h.toOwned.mapErase _).objs (c := t.objs.modify o .settle) rfl settle_curl with }

theorem complete (h : Records t) {o : ObjId} {p : PerformId} {res : CurlCode}
    {rest : List (ObjId × Task)} (hs : t.tasks = (o, .removing p res) :: rest) :
    Records (t.complete o p rest) := by
  have hmap : t.curlMap.lookup (t.obj o).curl = none := by
    rw [← Option.not_isSome_iff_eq_none, (h.agree (h.head_task hs).1).mapped]
    rintro ⟨-, hnr, -⟩
    exact hnr ⟨p, res, hs ▸ List.mem_cons_self ..⟩
  refine h.settle hs ?_ settle_curl (fun o' hne => Heap.modify_cell_ne t.objs .settle hne) ?_ rfl rfl
    ?_ rfl rfl h.flags
  · show ((t.objs.modify o .settle).cell o).inProgress = false
    rw [Heap.modify_cell_self]
    rfl
  · exact (Table.erase_none hmap).symm
  · exact { (h.toOwned.detach o).objs (c := t.objs.modify o .settle) rfl settle_curl with }

theorem messages (h : Records t) {ms : List (CurlPtr × PerformId × CurlCode)}
    (hms : ∀ msg ∈ ms, msg ∈ t.messages ∨ t.attached.lookup msg.1 = some msg.2.1) :
    Records { t with messages := ms } :=
  { h with
    toOwned := h.toOwned.messages hms
    agree := fun _ ho => (h.agree ho).same ⟨rfl, rfl, rfl, rfl, fun _ => Iff.rfl, Iff.rfl⟩ }

theorem post (h : Records t) {e : CurlPtr} {p : PerformId} {res : CurlCode}
    (ha : t.attached.lookup e = some p) : Records (t.post e p res) := by
  have hmsg : Records { t with messages := t.messages ++ [(e, p, res)] } := by
    refine h.messages fun msg hmsg => ?_
    rcases List.mem_append.mp hmsg with hmsg | hmsg
    · exact Or.inl hmsg
    · obtain rfl := List.mem_singleton.mp hmsg
      exact Or.inr ha
  exact { hmsg with
    agree := fun _ ho => (hmsg.agree ho).same ⟨rfl, rfl, rfl, rfl, fun _ => Iff.rfl, Iff.rfl⟩ }

/-- A completion starts: its object is attached and mapped, so no other task has it. -/
theorem read (h : Records t) {e : CurlPtr} {p : PerformId} {res : CurlCode}
    {rest : List (CurlPtr × PerformId × CurlCode)} (hlive : t.phase.IsLive)
    (hmsg : t.messages = (e, p, res) :: rest) : Records (t.read e p res rest) := by
  have hq : t.attached.lookup e = some p := h.queued (hmsg ▸ List.mem_cons_self ..)
  have hrest : Records { t with messages := rest } :=
    h.messages fun msg hm => Or.inl (hmsg ▸ List.mem_cons_of_mem _ hm)
  unfold Transfers.read
  split
  · exact hrest
  · rename_i o hmap
    obtain ⟨ho, rfl⟩ := h.easy.mp (h.mapOwner hmap)
    obtain ⟨hprog, hnr, -⟩ := (h.agree ho).mapped.mp (by rw [hmap]; rfl)
    obtain ⟨-, hna, -⟩ := (h.agree ho).attached.mp (by rw [hq]; rfl)
    have htask : ∀ k, (o, k) ∉ t.tasks := by
      rintro (p' | ⟨p', res'⟩) hk
      · exact hna ⟨p', hk⟩
      · exact hnr ⟨p', res', hk⟩
    obtain ⟨hrem, hclr, hover⟩ := live_only hlive
    refine {
      toOwned := { hrest.toOwned.mapErase (t.obj o).curl with }
      flags := h.flags
      tasksLive := fun _ => hlive
      nodup := ?_
      busy := ?_
      removing := ?_
      agree := ?_
      todo := fun a l hph => absurd hph (hrem a l)
      clearing := fun a l hph => absurd hph (hclr a l)
      emptied := fun hov => absurd hov hover }
    · refine List.nodup_cons.mpr ⟨fun hmem => ?_, h.nodup⟩
      obtain ⟨⟨o', k⟩, hk, rfl⟩ := List.mem_map.mp hmem
      exact htask k hk
    · intro o' k hk
      rcases List.mem_cons.mp hk with heq | hk
      · obtain ⟨rfl, -⟩ := Prod.mk.inj heq
        exact ⟨ho, hprog⟩
      · exact h.busy hk
    · intro o' p' res' hk
      rcases List.mem_cons.mp hk with heq | hk
      · obtain ⟨rfl, hnew⟩ := Prod.mk.inj heq
        obtain ⟨rfl, -⟩ := Task.removing.inj hnew
        exact hq
      · exact h.removing hk
    · intro o' ho'
      by_cases he : o' = o
      · subst he
        constructor
        · show ((t.curlMap.erase (t.obj o').curl).lookup (t.obj o').curl).isSome ↔ _
          rw [Finmap.lookup_erase]
          refine iff_of_false (by simp) fun hc => hc.2.1 ⟨p, res, List.mem_cons_self ..⟩
        · show (t.attached.lookup (t.obj o').curl).isSome ↔ _
          refine iff_of_true (by rw [hq]; rfl) ⟨hprog, ?_, not_dropped (t := { t with
            messages := rest, curlMap := _, tasks := _ }) hlive o'⟩
          rintro ⟨p', hk⟩
          rcases List.mem_cons.mp hk with heq | hk
          · simp at heq
          · exact hna ⟨p', hk⟩
      · refine (h.agree ho').same ⟨rfl, rfl, ?_, rfl, ?_, Iff.rfl⟩
        · exact Finmap.lookup_erase_ne fun hc => he (h.curl_inj ho' ho hc)
        · intro k
          exact List.mem_cons.trans (or_iff_right fun heq => he (Prod.mk.inj heq).1)

/-! ### Taking everything down -/

theorem visit_frame (n : AmxCurlHandle) :
    (t.visit n).handles = t.handles ∧ (t.visit n).objs = t.objs ∧ (t.visit n).tasks = t.tasks ∧
      (t.visit n).isDetached = t.isDetached ∧ (t.visit n).curlMulti = t.curlMulti := by
  unfold Transfers.visit
  split
  · exact ⟨rfl, rfl, rfl, rfl, rfl⟩
  · split <;> exact ⟨rfl, rfl, rfl, rfl, rfl⟩

theorem visit_owned (h : Records t) (n : AmxCurlHandle) : Owned (t.visit n) := by
  unfold Transfers.visit
  split
  · exact h.toOwned
  · split
    · exact (h.toOwned.mapErase _).detach _
    · exact h.toOwned

/-- The visited object is on neither list. -/
theorem visit_self (h : Records t) {n : AmxCurlHandle} {o : ObjId}
    (hn : t.handles.lookup n = some o) :
    (t.visit n).curlMap.lookup (t.obj o).curl = none ∧
      (t.visit n).attached.lookup (t.obj o).curl = none := by
  unfold Transfers.visit
  rw [hn]
  dsimp only
  split
  · exact ⟨Finmap.lookup_erase .., Finmap.lookup_erase ..⟩
  · rename_i hidle
    obtain ⟨hmap, hatt, -⟩ := h.idle ⟨n, hn⟩ (by simpa using hidle)
    exact ⟨hmap, hatt⟩

theorem visit_other (h : Records t) {n : AmxCurlHandle} {o : ObjId} (ho : t.IsLive o)
    (hn : t.handles.lookup n ≠ some o) :
    (t.visit n).curlMap.lookup (t.obj o).curl = t.curlMap.lookup (t.obj o).curl ∧
      (t.visit n).attached.lookup (t.obj o).curl = t.attached.lookup (t.obj o).curl := by
  unfold Transfers.visit
  split
  · exact ⟨rfl, rfl⟩
  · rename_i o' ho'
    have hne : (t.obj o).curl ≠ (t.obj o').curl := by
      intro hc
      obtain rfl := h.curl_inj ho ⟨n, ho'⟩ hc
      exact hn ho'
    split
    · exact ⟨Finmap.lookup_erase_ne hne, Finmap.lookup_erase_ne hne⟩
    · exact ⟨rfl, rfl⟩

/-- Outside the phases in which natives run nothing is inside libcurl. -/
theorem no_tasks (h : Records t) (hph : ¬t.phase.IsLive) : t.tasks = [] := by
  by_contra hne
  exact hph (h.tasksLive hne)

/-- `RemoveAllTasks` takes a handle off both lists, and leaves its flag. -/
theorem visit (h : Records t) {actor : Actor} {n : AmxCurlHandle} {todo : List AmxCurlHandle}
    (hph : t.phase = .removing actor (n :: todo)) :
    Records { t.visit n with phase := .removing actor todo } := by
  have hnd := List.nodup_cons.mp (h.todo hph)
  have htasks : t.tasks = [] := h.no_tasks (by rw [hph]; simp [Phase.IsLive])
  have hflags : t.isDetached = true ∧ t.curlMulti = true := by
    have hf := h.flags
    unfold Flags at hf
    rwa [hph] at hf
  obtain ⟨hhandles, hobjs, htasks', hdet, hmulti⟩ := visit_frame (t := t) n
  have hobj : ∀ o, (t.visit n).obj o = t.obj o := fun o => by rw [obj, hobjs]
  have hnone : (t.visit n).tasks = [] := htasks'.trans htasks
  refine {
    toOwned := { h.visit_owned n with }
    flags := ⟨hdet.trans hflags.1, hmulti.trans hflags.2⟩
    tasksLive := fun hne => absurd hnone hne
    nodup := by rw [show Transfers.tasks _ = [] from hnone]; exact List.nodup_nil
    busy := fun o k hk => absurd (hnone ▸ hk) List.not_mem_nil
    removing := fun o p res hk => absurd (hnone ▸ hk) List.not_mem_nil
    agree := ?_
    todo := ?_
    clearing := fun a l hl => by simp at hl
    emptied := fun hov => hov.elim }
  · rintro o ⟨j, hj⟩
    have hj : t.handles.lookup j = some o := hhandles ▸ hj
    by_cases hn : t.handles.lookup n = some o
    · obtain ⟨hmap, hatt⟩ := h.visit_self hn
      have hd : Dropped { t.visit n with phase := .removing actor todo } o :=
        ⟨n, hhandles ▸ hn, hnd.1⟩
      constructor
      · show ((t.visit n).curlMap.lookup ((t.visit n).obj o).curl).isSome ↔ _
        rw [hobj, hmap]
        exact iff_of_false (by simp) fun hc => hc.2.2 hd
      · show ((t.visit n).attached.lookup ((t.visit n).obj o).curl).isSome ↔ _
        rw [hobj, hatt]
        exact iff_of_false (by simp) fun hc => hc.2.2 hd
    · obtain ⟨hmap, hatt⟩ := h.visit_other ⟨j, hj⟩ hn
      refine (h.agree ⟨j, hj⟩).same ⟨congrArg Transfer.curl (hobj o),
        congrArg Transfer.inProgress (hobj o), hmap, hatt, fun k => ?_, ?_⟩
      · rw [show Transfers.tasks _ = [] from hnone, htasks]
      · -- only the object under `n` is dropped by this round
        unfold Dropped
        rw [hph]
        show (∃ i, (t.visit n).handles.lookup i = some o ∧ i ∉ todo) ↔ _
        rw [hhandles]
        refine exists_congr fun i => and_congr_right fun hi => ?_
        rw [List.mem_cons, or_iff_right]
        rintro rfl
        exact hn hi
  · intro a l hl
    obtain ⟨-, rfl⟩ := Phase.removing.inj hl
    exact hnd.2

/-- The phase moves on, and perhaps the flag. -/
theorem rephase (h : Records t) {ph : Phase} {d : Bool}
    (hflags : Flags { t with phase := ph, isDetached := d })
    (htasks : t.tasks = [] ∨ ph.IsLive)
    (hdrop : ∀ o, t.IsLive o → (t.obj o).inProgress = true →
      (Dropped { t with phase := ph, isDetached := d } o ↔ t.Dropped o))
    (htodo : ∀ ⦃actor todo⦄, ph = .removing actor todo → todo.Nodup)
    (hclear : ∀ ⦃actor todo⦄, ph = .clearing actor todo →
      ∀ ⦃n o⦄, t.handles.lookup n = some o → n ∈ todo)
    (hover : ph.IsOver → ∀ n, t.handles.lookup n = none) :
    Records { t with phase := ph, isDetached := d } := by
  refine { h with
    flags := hflags
    tasksLive := fun hne => htasks.resolve_left hne
    agree := fun o ho => ?_
    todo := htodo
    clearing := hclear
    emptied := hover }
  cases hprog : (t.obj o).inProgress with
  | true => exact (h.agree ho).same ⟨rfl, rfl, rfl, rfl, fun _ => Iff.rfl, hdrop o ho hprog⟩
  | false =>
      obtain ⟨hmap, hatt, -⟩ := h.idle ho hprog
      have hprog' : (t.obj o).inProgress ≠ true := by simp [hprog]
      constructor
      · exact iff_of_false (by rw [hmap]; simp) fun hc => hprog' hc.1
      · exact iff_of_false (by rw [hatt]; simp) fun hc => hprog' hc.1

/-- A handle of a map that is being destroyed is on no record. -/
theorem drop (h : Records t) {actor : Actor} {n : AmxCurlHandle} {todo : List AmxCurlHandle}
    (hph : t.phase = .clearing actor (n :: todo)) :
    Records { t.drop n with phase := .clearing actor todo } := by
  have htasks : t.tasks = [] := h.no_tasks (by rw [hph]; simp [Phase.IsLive])
  have hflags : t.isDetached = true ∧ (actor = .destructor ∨ t.curlMulti = true) := by
    have hf := h.flags
    unfold Flags at hf
    rwa [hph] at hf
  have hdrop : ∀ o, t.Dropped o := by
    intro o
    unfold Dropped
    rw [hph]
    trivial
  have hcovered : ∀ {j o}, t.handles.lookup j = some o → j ∈ n :: todo :=
    fun hj => h.clearing hph hj
  unfold Transfers.drop
  split
  · rename_i hn
    refine h.rephase hflags (Or.inl htasks) (fun o _ _ => iff_of_true trivial (hdrop o)) (by simp) ?_
      False.elim
    intro a l hl j o hj
    obtain ⟨-, rfl⟩ := Phase.clearing.inj hl
    refine (List.mem_cons.mp (hcovered hj)).resolve_left ?_
    rintro rfl
    rw [hn] at hj
    simp at hj
  · rename_i o hn
    have ho : t.IsLive o := ⟨n, hn⟩
    have hmap : t.curlMap.lookup (t.obj o).curl = none := by
      rw [← Option.not_isSome_iff_eq_none, (h.agree ho).mapped]
      exact fun hc => hc.2.2 (hdrop o)
    have hatt : t.attached.lookup (t.obj o).curl = none := by
      rw [← Option.not_isSome_iff_eq_none, (h.agree ho).attached]
      exact fun hc => hc.2.2 (hdrop o)
    have hdes := h.destroy hn hmap hatt fun k => by simp [htasks]
    refine hdes.rephase hflags (Or.inl htasks) (fun o _ _ => iff_of_true trivial ?_) (by simp) ?_
      False.elim
    · unfold Dropped
      show match t.phase with | .removing _ l => _ | .clearing _ _ => _ | _ => _
      rw [hph]
      trivial
    · intro a l hl j o' hj
      obtain ⟨-, rfl⟩ := Phase.clearing.inj hl
      obtain ⟨hne, hj⟩ := Table.lookup_erase_eq_some.mp hj
      exact (List.mem_cons.mp (hcovered hj)).resolve_left hne

/-- The multi goes; nothing is attached, and nobody is left. -/
theorem shutdown (h : Records t) {actor : Actor} (hph : t.phase = .shutdown actor)
    (es : List Event) :
    Records { t.emit es with curlMulti := false, phase := actor.afterShutdown } := by
  have hempty : ∀ n, t.handles.lookup n = none := h.emptied (by rw [hph]; trivial)
  have hdead : ∀ o, ¬t.IsLive o := by
    rintro o ⟨n, hn⟩
    rw [hempty n] at hn
    simp at hn
  have hd : t.isDetached = true := by
    have hf := h.flags
    unfold Flags at hf
    rw [hph] at hf
    exact hf.1
  have hnone : ∀ e, t.attached.lookup e = none := by
    intro e
    rw [Option.eq_none_iff_forall_ne_some]
    intro p ha
    obtain ⟨o, ho⟩ := h.attachOwner ha
    exact hdead o (h.easy.mp ho).1
  exact { h with
    dead := fun _ => hnone
    flags := by cases actor <;> exact ⟨hd, rfl⟩
    tasksLive := fun hne => absurd (h.no_tasks (by simp [hph, Phase.IsLive])) hne
    agree := fun o ho => absurd ho (hdead o)
    todo := by cases actor <;> simp [Actor.afterShutdown]
    clearing := by cases actor <;> simp [Actor.afterShutdown]
    emptied := fun _ => hempty }

/-- A walk visits every handle. -/
theorem walks_mem {order : List AmxCurlHandle} (ho : t.Walks order) {n : AmxCurlHandle} {o : ObjId}
    (hn : t.handles.lookup n = some o) : n ∈ order := by
  rw [← List.mem_toFinset, ho.2, Finmap.mem_keys, ← Finmap.lookup_isSome, hn]
  rfl

/-- `RemoveAllTasks` starts, with nobody visited. -/
theorem startRemoving (h : Records t) {actor : Actor} {order : List AmxCurlHandle}
    (ho : t.Walks order) (hs : t.tasks = []) (hm : t.curlMulti = true) (hd : ∀ o, ¬t.Dropped o) :
    Records { t with isDetached := true, phase := .removing actor order } := by
  refine h.rephase ⟨rfl, hm⟩ (Or.inl hs) (fun o _ _ => iff_of_false ?_ (hd o)) ?_ (by simp) False.elim
  · rintro ⟨n, hn, hno⟩
    exact hno (walks_mem ho hn)
  · intro a l hl
    obtain ⟨-, rfl⟩ := Phase.removing.inj hl
    exact ho.1

/-- Every change to the transfers keeps the records in order. -/
theorem op (hN : ∀ ph, N ph → ph.IsLive) (h : Records t) (hop : Op N t t') : Records t' := by
  cases hop with
  | create n e hlive he hh => exact h.create (hN _ hlive) he hh
  | createLost e => exact h.alloc.emit
  | destroy n o hlive hh hidle =>
      obtain ⟨hmap, hatt, htask⟩ := h.idle ⟨n, hh⟩ hidle
      exact h.destroy hh hmap hatt htask
  | reset => exact h.emit
  | refuse => exact h.setObj fun _ => ⟨rfl, rfl⟩
  | add n o args hlive hh hidle => exact h.add (hN _ hlive) ⟨n, hh⟩ hidle
  | added o p rest hs hm hfree => exact h.added hs hm hfree
  | addFailed o p rest hs => exact h.addFailed hs
  | complete o p res rest hs => exact h.complete hs
  | read e p res rest hlive hmsg => exact h.read hlive hmsg
  | post e p res ha => exact h.post ha

/-- So does every step towards the end. -/
theorem move (h : Records t) (hmove : Move t t') : Records t' := by
  have hflags := h.flags
  unfold Flags at hflags
  cases hmove with
  | drain hph hs =>
      rw [hph] at hflags
      refine h.rephase hflags (Or.inl hs) (fun o _ _ => ?_) (by simp) (by simp) False.elim
      exact iff_of_false not_false (not_dropped (Or.inl hph) o)
  | removeAll order hph hs ho =>
      rw [hph] at hflags
      exact h.startRemoving ho hs hflags.2 (not_dropped (Or.inr (Or.inl hph)))
  | exit hph hs =>
      refine h.rephase ?_ (Or.inl hs) (fun o _ _ => ?_) (by simp) (by simp) False.elim
      · show t.isDetached = !t.curlMulti
        rcases hph with hph | hph <;> rw [hph] at hflags <;> rw [hflags.1, hflags.2] <;> rfl
      · exact iff_of_false not_false
          (not_dropped (hph.elim Or.inl fun hd => Or.inr (Or.inr hd)) o)
  | guard order hph hd ho =>
      rw [hph] at hflags
      refine h.startRemoving ho (h.no_tasks (by simp [hph, Phase.IsLive])) ?_ ?_
      · simpa [hd] using hflags
      · intro o
        unfold Dropped
        simp [hph]
  | visit actor n todo hph => exact h.visit hph
  | clear actor order hph ho =>
      rw [hph] at hflags
      refine h.rephase ⟨hflags.1, Or.inr hflags.2⟩ (Or.inl (h.no_tasks (by simp [hph, Phase.IsLive])))
        (fun o ⟨n, hn⟩ _ => iff_of_true trivial ?_) (by simp) ?_ False.elim
      · unfold Dropped
        rw [hph]
        exact ⟨n, hn, List.not_mem_nil⟩
      · intro a l hl n o hn
        obtain ⟨-, rfl⟩ := Phase.clearing.inj hl
        exact walks_mem ho hn
  | drop actor n todo hph => exact h.drop hph
  | destruct order ho hph =>
      have hclear : ∀ ⦃actor todo⦄, Phase.clearing .destructor order = .clearing actor todo →
          ∀ ⦃n o⦄, t.handles.lookup n = some o → n ∈ todo := by
        intro a l hl n o hn
        obtain ⟨-, rfl⟩ := Phase.clearing.inj hl
        exact walks_mem ho hn
      rcases hph with ⟨hph, hd⟩ | hph
      · rw [hph] at hflags
        have hs : t.tasks = [] := h.no_tasks (by simp [hph, Phase.IsLive])
        refine h.rephase ⟨hd, Or.inl rfl⟩ (Or.inl hs) (fun o hl hprog => ?_) (by simp) hclear
          False.elim
        -- the multi is gone, so nothing is attached and nothing in progress
        have hatt := (h.agree hl).attached
        rw [h.dead (by simpa [hd] using hflags) _] at hatt
        refine absurd (hatt.mpr ⟨hprog, ?_, ?_⟩) (by simp)
        · rintro ⟨p, hk⟩
          simp [hs] at hk
        · unfold Dropped
          simp [hph]
      · rw [hph] at hflags
        refine h.rephase ⟨hflags.1, Or.inl rfl⟩ (Or.inl (h.no_tasks (by simp [hph, Phase.IsLive])))
          (fun o ⟨n, hn⟩ _ => ?_) (by simp) hclear False.elim
        exact absurd (h.clearing hph hn) List.not_mem_nil
  | cleared actor hph =>
      rw [hph] at hflags
      refine h.rephase hflags (Or.inl (h.no_tasks (by simp [hph, Phase.IsLive])))
        (fun o ⟨n, hn⟩ _ => ?_) (by simp) (by simp) fun _ n => ?_
      · exact absurd (h.clearing hph hn) List.not_mem_nil
      · rw [Option.eq_none_iff_forall_ne_some]
        intro o hn
        exact absurd (h.clearing hph hn) List.not_mem_nil
  | shutdown actor hph => exact h.shutdown hph _
  | shutdownAgain actor hph hm => simpa [Transfers.emit, hm] using h.shutdown hph []
  | globalCleanup hph =>
      rw [hph] at hflags
      have hempty := h.emptied (by rw [hph]; trivial)
      refine h.emit.rephase hflags (Or.inl (h.no_tasks (by simp [hph, Phase.IsLive])))
        (fun o ⟨n, hn⟩ _ => ?_) (by simp) (by simp) False.elim
      have hn : t.handles.lookup n = some o := hn
      rw [hempty n] at hn
      simp at hn

/-- **In every reachable state the records are in order.** -/
theorem reachable (hN : ∀ ph, N ph → ph.IsLive) (h : Reachable N t) : Records t := by
  induction h with
  | refl => exact .boot
  | tail _ hstep ih =>
      rcases hstep with hop | hmove
      · exact ih.op hN hop
      · exact ih.move hmove

end Records

end Transfers

end AmxxCurl
