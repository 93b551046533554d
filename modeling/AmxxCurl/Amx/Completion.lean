/-
Completions: once, and with what the perform was given.

`Given` follows the arguments of a perform from the call to its completion: while the
perform is inside `curl_multi_add_handle` or its easy handle is attached, the object
holds them, and nothing assigns to them meanwhile.  `Counted` follows a DONE: it is
queued, or its completion is inside `curl_multi_remove_handle`, or the completion has
run, and never two of these.
-/
import AmxxCurl.Amx.Agreement

namespace AmxxCurl

open AmxCurlController
open Transfers (Op Move Reachable Records)

/-- The completion of `p` runs. -/
def AmxCurlController.Event.isCompletion (p : PerformId) : Event → Bool
  | .completed p' _ => p' == p
  | _ => false

/-- The completion of `p` is inside `curl_multi_remove_handle`. -/
def Task.isRemoving (p : PerformId) : Task → Bool
  | .removing p' _ => p' == p
  | .adding _ => false

theorem AmxCurlController.Event.isCompletion_self {p p' : PerformId} {args : PerformArgs} :
    (Event.completed p' args).isCompletion p = (p' == p) := rfl

theorem AmxCurlController.Event.isCompletion_libcurl {p : PerformId} {c : LibCall} :
    (Event.libcurl c).isCompletion p = false := rfl

theorem Task.isRemoving_removing {p p' : PerformId} {res : CurlCode} :
    (Task.removing p' res).isRemoving p = (p' == p) := rfl

namespace Transfers

variable {N : Phase → Prop} {t t' : Transfers}

/-! ### The arguments -/

/-- The objects hold what their performs were given, and completions read that. -/
structure Given (t : Transfers) : Prop where
  adding : ∀ ⦃o p⦄, (o, .adding p) ∈ t.tasks →
    p < t.performs.next ∧ (t.obj o).args = t.performs.cell p
  attached : ∀ ⦃e o p⦄, t.easies.lookup e = some o → t.attached.lookup e = some p →
    p < t.performs.next ∧ (t.obj o).args = t.performs.cell p ∧ .accepted p ∈ t.log
  completed : ∀ ⦃p args⦄, .completed p args ∈ t.log →
    p < t.performs.next ∧ args = t.performs.cell p ∧ .accepted p ∈ t.log

namespace Given

theorem boot : Given boot where
  adding := by simp [Transfers.boot]
  attached := by simp [Transfers.boot]
  completed := by simp [Transfers.boot]

/-- Nothing new is attached, added or completed, and the objects that matter are the same. -/
theorem mono (h : Given t)
    (hadd : ∀ o p, (o, .adding p) ∈ t'.tasks →
      (o, .adding p) ∈ t.tasks ∧ (t'.obj o).args = (t.obj o).args)
    (hatt : ∀ e o p, t'.easies.lookup e = some o → t'.attached.lookup e = some p →
      t.easies.lookup e = some o ∧ t.attached.lookup e = some p ∧
        (t'.obj o).args = (t.obj o).args)
    (hperf : t'.performs = t.performs) (hlog : ∀ ev ∈ t.log, ev ∈ t'.log)
    (hnew : ∀ p args, .completed p args ∈ t'.log → .completed p args ∈ t.log) : Given t' where
  adding := by
    intro o p hk
    obtain ⟨hk, hargs⟩ := hadd o p hk
    rw [hargs, hperf]
    exact h.adding hk
  attached := by
    intro e o p he ha
    obtain ⟨he, ha, hargs⟩ := hatt e o p he ha
    obtain ⟨hlt, heq, hacc⟩ := h.attached he ha
    rw [hargs, hperf]
    exact ⟨hlt, heq, hlog _ hacc⟩
  completed := by
    intro p args hc
    obtain ⟨hlt, heq, hacc⟩ := h.completed (hnew p args hc)
    rw [hperf]
    exact ⟨hlt, heq, hlog _ hacc⟩

/-- The same, where objects and tasks are the same as well. -/
theorem sub (h : Given t) (hobjs : t'.objs = t.objs) (htasks : t'.tasks = t.tasks)
    (hatt : ∀ e o p, t'.easies.lookup e = some o → t'.attached.lookup e = some p →
      t.easies.lookup e = some o ∧ t.attached.lookup e = some p)
    (hperf : t'.performs = t.performs) {es : List Event} (hlog : t'.log = t.log ++ es)
    (hes : ∀ p args, .completed p args ∉ es) : Given t' := by
  refine h.mono (fun o p hk => ?_) (fun e o p he ha => ?_) hperf ?_ fun p args hc => ?_
  · rw [obj, hobjs]
    exact ⟨htasks ▸ hk, rfl⟩
  · rw [obj, hobjs]
    exact ⟨(hatt e o p he ha).1, (hatt e o p he ha).2, rfl⟩
  · intro ev hev
    rw [hlog]
    exact List.mem_append_left _ hev
  · rw [hlog] at hc
    exact (List.mem_append.mp hc).resolve_right (hes p args)

theorem detach (h : Given t) (o : ObjId) : Given (t.detach o) :=
  h.sub rfl rfl (fun _ _ _ he ha => ⟨he, (Table.lookup_erase_eq_some.mp ha).2⟩) rfl rfl (by simp)

theorem destroy (h : Given t) (n : AmxCurlHandle) (o : ObjId) : Given (t.destroy n o) :=
  h.sub rfl rfl (fun _ _ _ he ha => ⟨(Table.lookup_erase_eq_some.mp he).2, ha⟩) rfl rfl (by simp)

/-- The object of the innermost task is settled. -/
theorem settle (h : Given t) (hr : Records t) {o : ObjId} {k : Task} {rest : List (ObjId × Task)}
    (hs : t.tasks = (o, k) :: rest) (hobjs : t'.objs = t.objs.modify o .settle)
    (htasks : t'.tasks = rest) (heasies : t'.easies = t.easies)
    (hatt : t'.attached = t.attached.erase (t.obj o).curl) (hperf : t'.performs = t.performs)
    (hlog : ∀ ev ∈ t.log, ev ∈ t'.log)
    (hnew : ∀ p args, .completed p args ∈ t'.log → .completed p args ∈ t.log ∨
      args = (t.obj o).args ∧ t.attached.lookup (t.obj o).curl = some p) : Given t' := by
  obtain ⟨ho, -, -, -, hrest⟩ := hr.head_task hs
  have hobj : ∀ {o'}, o' ≠ o → t'.obj o' = t.obj o' := by
    intro o' hne
    rw [obj, hobjs]
    exact Heap.modify_cell_ne t.objs .settle hne
  refine ⟨fun o' p hk => ?_, fun e o' p he ha => ?_, fun p args hc => ?_⟩
  · rw [htasks] at hk
    rw [hperf, hobj fun he => hrest _ (he ▸ hk)]
    exact h.adding (hs ▸ List.mem_cons_of_mem _ hk)
  · rw [hatt] at ha
    rw [heasies] at he
    obtain ⟨hne, ha⟩ := Table.lookup_erase_eq_some.mp ha
    have hne' : o' ≠ o := by
      rintro rfl
      exact hne (hr.easy.mp he).2.symm
    obtain ⟨hlt, heq, hacc⟩ := h.attached he ha
    rw [hperf, hobj hne']
    exact ⟨hlt, heq, hlog _ hacc⟩
  · rw [hperf]
    rcases hnew p args hc with hold | ⟨rfl, ha⟩
    · obtain ⟨hlt, heq, hacc⟩ := h.completed hold
      exact ⟨hlt, heq, hlog _ hacc⟩
    · obtain ⟨hlt, heq, hacc⟩ := h.attached (hr.easy.mpr ⟨ho, rfl⟩) ha
      exact ⟨hlt, heq, hlog _ hacc⟩

theorem op (h : Given t) (hr : Records t) (hop : Op N t t') : Given t' := by
  cases hop with
  | create n e hlive he hh =>
      have hcell : ∀ {o}, t.IsLive o → (t.objs.alloc (.new e)).cell o = t.obj o :=
        fun ho => Heap.alloc_cell_lt _ _ (hr.objLt ho)
      refine h.mono (fun o p hk => ⟨hk, ?_⟩) (fun e' o p he' ha => ?_) rfl
        (fun ev hev => List.mem_append_left _ hev) fun p args hc => ?_
      · exact congrArg Transfer.args (hcell (hr.busy hk).1)
      · obtain ⟨o', ho'⟩ := hr.attachOwner ha
        rcases Table.lookup_insert_eq_some.mp he' with ⟨rfl, -⟩ | ⟨-, he'⟩
        · rw [he] at ho'
          simp at ho'
        · exact ⟨he', ha, congrArg Transfer.args (hcell (hr.easy.mp he').1)⟩
      · simpa [Transfers.create, Transfers.emit, Transfers.alloc] using hc
  | createLost e =>
      have hcell : ∀ {o}, t.IsLive o → (t.objs.alloc (.new e)).cell o = t.obj o :=
        fun ho => Heap.alloc_cell_lt _ _ (hr.objLt ho)
      refine h.mono (fun o p hk => ⟨hk, ?_⟩) (fun e' o p he' ha => ⟨he', ha, ?_⟩) rfl
        (fun ev hev => List.mem_append_left _ hev) fun p args hc => ?_
      · exact congrArg Transfer.args (hcell (hr.busy hk).1)
      · exact congrArg Transfer.args (hcell (hr.easy.mp he').1)
      · simpa [Transfers.emit, Transfers.alloc] using hc
  | destroy n o => exact h.destroy n o
  | reset n o =>
      exact h.sub rfl rfl (fun _ _ _ he ha => ⟨he, ha⟩) rfl rfl (by simp)
  | refuse n o fun_ hlive hh hidle =>
      -- the object is idle, so no perform of it is under way
      obtain ⟨-, hatt, htask⟩ := hr.idle ⟨n, hh⟩ hidle
      have hobj : ∀ {o'}, o' ≠ o → (t.setObj o (·.refuse fun_)).obj o' = t.obj o' :=
        fun hne => Heap.modify_cell_ne t.objs (·.refuse fun_) hne
      refine h.mono (fun o' p hk => ⟨hk, ?_⟩) (fun e o' p he ha => ⟨he, ha, ?_⟩) rfl
        (fun ev hev => hev) fun p args hc => hc
      · rw [hobj fun he => htask _ (he ▸ hk)]
      · rw [hobj]
        rintro rfl
        have ha : t.attached.lookup e = some p := ha
        rw [← (hr.easy.mp he).2, hatt] at ha
        simp at ha
  | add n o args hlive hh hidle =>
      obtain ⟨-, hatt, htask⟩ := hr.idle ⟨n, hh⟩ hidle
      have hobj : ∀ {o'}, o' ≠ o → (t.add o args).obj o' = t.obj o' :=
        fun hne => Heap.modify_cell_ne t.objs (·.start args) hne
      have hself : (t.add o args).obj o = (t.obj o).start args :=
        Heap.modify_cell_self t.objs o (·.start args)
      refine ⟨fun o' p hk => ?_, fun e o' p he ha => ?_, fun p args' hc => ?_⟩
      · rcases List.mem_cons.mp hk with heq | hk
        · obtain ⟨rfl, hp⟩ := Prod.mk.inj heq
          obtain rfl := Task.adding.inj hp
          rw [hself]
          exact ⟨Nat.lt_succ_self _, (Heap.alloc_cell_next t.performs args).symm⟩
        · obtain ⟨hlt, heq⟩ := h.adding hk
          rw [hobj fun he => htask _ (he ▸ hk)]
          exact ⟨Nat.lt_succ_of_lt hlt, heq.trans (Heap.alloc_cell_lt t.performs args hlt).symm⟩
      · have hold : t.attached.lookup e = some p := ha
        have hne : o' ≠ o := by
          rintro rfl
          rw [← (hr.easy.mp he).2, hatt] at hold
          simp at hold
        obtain ⟨hlt, heq, hacc⟩ := h.attached he ha
        rw [hobj hne]
        exact ⟨Nat.lt_succ_of_lt hlt, heq.trans (Heap.alloc_cell_lt t.performs args hlt).symm,
          List.mem_append_left _ hacc⟩
      · have hc : .completed p args' ∈ t.log ++ [Event.libcurl (.addHandle o)] := hc
        obtain ⟨hlt, heq, hacc⟩ := h.completed (by simpa using hc)
        exact ⟨Nat.lt_succ_of_lt hlt, heq.trans (Heap.alloc_cell_lt t.performs args hlt).symm,
          List.mem_append_left _ hacc⟩
  | added o p rest hs hm hfree =>
      have hsub : ∀ {x}, x ∈ rest → x ∈ t.tasks := fun hx => hs ▸ List.mem_cons_of_mem _ hx
      refine ⟨fun o' p' hk => h.adding (hsub hk), fun e o' p' he ha => ?_, fun p' args hc => ?_⟩
      · rcases Table.lookup_insert_eq_some.mp ha with ⟨rfl, rfl⟩ | ⟨-, ha⟩
        · obtain rfl := hr.curl_inj (hr.easy.mp he).1 (hr.head_task hs).1 (hr.easy.mp he).2
          obtain ⟨hlt, heq⟩ := h.adding (hs ▸ List.mem_cons_self ..)
          exact ⟨hlt, heq, List.mem_append_right _ (by simp)⟩
        · obtain ⟨hlt, heq, hacc⟩ := h.attached he ha
          exact ⟨hlt, heq, List.mem_append_left _ hacc⟩
      · have hc : .completed p' args ∈ t.log ++ [Event.libcurl (.added o true), .accepted p] := hc
        obtain ⟨hlt, heq, hacc⟩ := h.completed (by simpa using hc)
        exact ⟨hlt, heq, List.mem_append_left _ hacc⟩
  | addFailed o p rest hs =>
      have hatt : t.attached.lookup (t.obj o).curl = none := by
        rw [← Option.not_isSome_iff_eq_none, (hr.agree (hr.head_task hs).1).attached]
        rintro ⟨-, hna, -⟩
        exact hna ⟨p, hs ▸ List.mem_cons_self ..⟩
      refine h.settle hr hs rfl rfl rfl (Table.erase_none hatt).symm rfl
        (fun ev hev => List.mem_append_left _ hev) fun p' args hc => Or.inl ?_
      simpa [Transfers.addFailed, Transfers.emit] using hc
  | complete o p res rest hs =>
      have ha := hr.removing (hs ▸ List.mem_cons_self ..)
      refine h.settle hr hs rfl rfl rfl rfl rfl (fun ev hev => ?_) fun p' args hc => ?_
      · exact List.mem_append_left _ (List.mem_append_left _ hev)
      · have hc : .completed p' args ∈ (t.log ++ [Event.libcurl (.removeHandle o)])
            ++ [Event.completed p (t.obj o).args] := hc
        rcases List.mem_append.mp hc with hc | hc
        · exact Or.inl (by simpa using hc)
        · obtain ⟨rfl, rfl⟩ := Event.completed.inj (List.mem_singleton.mp hc)
          exact Or.inr ⟨rfl, ha⟩
  | read e p res rest =>
      unfold Transfers.read
      split
      · exact h.sub rfl rfl (fun _ _ _ he ha => ⟨he, ha⟩) rfl (List.append_nil _).symm (by simp)
      · refine h.mono (fun o' p' hk => ⟨?_, rfl⟩) (fun e o' p' he ha => ⟨he, ha, rfl⟩) rfl
          (fun ev hev => hev) fun p' args hc => hc
        exact (List.mem_cons.mp hk).resolve_left (by simp)
  | post => exact h.sub rfl rfl (fun _ _ _ he ha => ⟨he, ha⟩) rfl (List.append_nil _).symm (by simp)

theorem move (h : Given t) (hmove : Move t t') : Given t' := by
  cases hmove with
  | visit actor n todo =>
      have hvisit : Given (t.visit n) := by
        unfold Transfers.visit
        split
        · exact h
        · split
          · exact (h.detach _).sub rfl rfl (fun _ _ _ he ha => ⟨he, ha⟩) rfl
              (List.append_nil _).symm (by simp)
          · exact h
      exact hvisit.sub rfl rfl (fun _ _ _ he ha => ⟨he, ha⟩) rfl (List.append_nil _).symm (by simp)
  | drop actor n todo =>
      have hdrop : Given (t.drop n) := by
        unfold Transfers.drop
        split
        · exact h
        · exact h.destroy _ _
      exact hdrop.sub rfl rfl (fun _ _ _ he ha => ⟨he, ha⟩) rfl (List.append_nil _).symm (by simp)
  | shutdown => exact h.sub rfl rfl (fun _ _ _ he ha => ⟨he, ha⟩) rfl rfl (by simp)
  | globalCleanup => exact h.sub rfl rfl (fun _ _ _ he ha => ⟨he, ha⟩) rfl rfl (by simp)
  | _ => exact h.sub rfl rfl (fun _ _ _ he ha => ⟨he, ha⟩) rfl (List.append_nil _).symm (by simp)

theorem reachable (hN : ∀ ph, N ph → ph.IsLive) (h : Reachable N t) : Given t := by
  induction h with
  | refl => exact .boot
  | tail hreach hstep ih =>
      rcases hstep with hop | hmove
      · exact ih.op (.reachable hN hreach) hop
      · exact ih.move hmove

end Given

/-! ### The count -/

/-- How often a DONE of `p` is queued, being completed, and completed. -/
def total (t : Transfers) (p : PerformId) : Nat :=
  t.messages.countP (·.2.1 == p) + t.tasks.countP (·.2.isRemoving p)
    + t.log.countP (Event.isCompletion p)

/-- A DONE is accounted for once, and until the flag is set it is not lost. -/
structure Counted (t : Transfers) : Prop where
  bound : ∀ p, t.total p ≤ if p ∈ t.posted then 1 else 0
  kept : t.isDetached = false → ∀ p, t.total p = if p ∈ t.posted then 1 else 0

namespace Counted

theorem boot : Counted boot where
  bound := by simp [Transfers.boot, total]
  kept := by simp [Transfers.boot, total]

theorem same (h : Counted t) (ht : ∀ p, t'.total p = t.total p) (hposted : t'.posted = t.posted)
    (hd : t'.isDetached = false → t.isDetached = false) : Counted t' where
  bound := fun p => by
    rw [ht, hposted]
    exact h.bound p
  kept := fun hdet p => by
    rw [ht, hposted]
    exact h.kept (hd hdet) p

/-- Once the flag is set DONEs may be lost. -/
theorem lost (h : Counted t) (ht : ∀ p, t'.total p ≤ t.total p) (hposted : t'.posted = t.posted)
    (hd : t'.isDetached = true) : Counted t' where
  bound := fun p => by
    rw [hposted]
    exact (ht p).trans (h.bound p)
  kept := fun hdet => by
    rw [hd] at hdet
    simp at hdet

/-- Events that are no completions do not count. -/
theorem logs (h : Counted t) (hmsg : t'.messages = t.messages) (htasks : t'.tasks = t.tasks)
    (hposted : t'.posted = t.posted) (hd : t'.isDetached = t.isDetached) {es : List Event}
    (hlog : t'.log = t.log ++ es) (hes : ∀ p, ∀ e ∈ es, e.isCompletion p = false) : Counted t' := by
  refine h.same (fun p => ?_) hposted (hd ▸ id)
  have hnone : es.countP (Event.isCompletion p) = 0 := by
    rw [List.countP_eq_zero]
    intro e he
    simp [hes p e he]
  simp only [total, hmsg, htasks, hlog, List.countP_append, hnone, Nat.add_zero]

/-- One DONE at most for each perform. -/
theorem one (h : Counted t) (p : PerformId) : t.total p ≤ 1 := by
  refine (h.bound p).trans ?_
  split <;> simp

/-- While a completion of `o` is inside libcurl, no DONE for its easy handle is queued. -/
theorem no_message (h : Counted t) (hr : Records t) {o : ObjId} {p : PerformId} {res : CurlCode}
    (hk : (o, .removing p res) ∈ t.tasks) :
    ∀ msg ∈ t.messages, msg.1 ≠ (t.obj o).curl := by
  rintro ⟨e, p', res'⟩ hmsg rfl
  have hp : p' = p := Option.some.inj ((hr.queued hmsg).symm.trans (hr.removing hk))
  have hq : 0 < t.messages.countP (·.2.1 == p) :=
    List.countP_pos_iff.mpr ⟨_, hmsg, by simp [hp]⟩
  have hrun : 0 < t.tasks.countP (·.2.isRemoving p) :=
    List.countP_pos_iff.mpr ⟨_, hk, by simp [Task.isRemoving]⟩
  have hone := h.one p
  unfold total at hone
  omega

/-- A DONE that is read moves from the queue to the stack. -/
theorem read (h : Counted t) (hr : Records t) {e : CurlPtr} {p : PerformId} {res : CurlCode}
    {rest : List (CurlPtr × PerformId × CurlCode)} (hlive : t.phase.IsLive)
    (hmsg : t.messages = (e, p, res) :: rest) : Counted (t.read e p res rest) := by
  have hmem : (e, p, res) ∈ t.messages := hmsg ▸ List.mem_cons_self ..
  have hq : t.attached.lookup e = some p := hr.queued hmem
  obtain ⟨o, ho⟩ := hr.attachOwner hq
  obtain ⟨hl, rfl⟩ := hr.easy.mp ho
  have hnr : ¬t.Removing o := fun ⟨p', res', hk⟩ => h.no_message hr hk _ hmem rfl
  -- so the completion is still in `curl_map_`
  have hmap : (t.curlMap.lookup (t.obj o).curl).isSome := by
    rw [(hr.agree hl).mapped]
    exact ⟨((hr.agree hl).attached.mp (by rw [hq]; rfl)).1, hnr, not_dropped hlive o⟩
  obtain ⟨o', ho'⟩ := Option.isSome_iff_exists.mp hmap
  unfold Transfers.read
  rw [ho']
  refine h.same (fun p' => ?_) rfl id
  cases hp : p == p' <;>
    simp only [total, hmsg, List.countP_cons, Task.isRemoving_removing, hp, Bool.false_eq_true,
      if_false, if_true] <;>
    omega

theorem op (h : Counted t) (hr : Records t) (hop : Op N t t') : Counted t' := by
  cases hop with
  | create => exact h.logs rfl rfl rfl rfl rfl (by simp [Event.isCompletion])
  | createLost => exact h.logs rfl rfl rfl rfl rfl (by simp [Event.isCompletion])
  | destroy => exact h.logs rfl rfl rfl rfl rfl (by simp [Event.isCompletion])
  | reset => exact h.logs rfl rfl rfl rfl rfl (by simp [Event.isCompletion])
  | refuse => exact h.same (fun _ => rfl) rfl id
  | add n o args =>
      refine h.same (fun p => ?_) rfl id
      simp [total, Transfers.add, Transfers.emit, Transfers.setObj, List.countP_append,
        Task.isRemoving, Event.isCompletion]
  | added o p rest hs =>
      refine h.same (fun p => ?_) rfl id
      simp [total, hs, Transfers.added, Transfers.emit, List.countP_append, Task.isRemoving,
        Event.isCompletion]
  | addFailed o p rest hs =>
      refine h.same (fun p => ?_) rfl id
      simp [total, hs, Transfers.addFailed, Transfers.emit, List.countP_append, Task.isRemoving,
        Event.isCompletion]
  | complete o p res rest hs =>
      refine h.same (fun p' => ?_) rfl id
      have hfilter : t.messages.filter (fun msg => msg.1 != (t.obj o).curl) = t.messages := by
        rw [List.filter_eq_self]
        intro msg hmsg
        simpa using h.no_message hr (hs ▸ List.mem_cons_self ..) msg hmsg
      cases hp : p == p' <;>
        simp only [total, Transfers.complete, Transfers.detach, Transfers.emit, Transfers.setObj,
          hfilter, hs, List.countP_append, List.countP_cons, List.countP_nil, hp,
          Event.isCompletion_self, Event.isCompletion_libcurl, Task.isRemoving_removing,
          Bool.false_eq_true, if_false, if_true] <;>
        omega
  | read e p res rest hlive hmsg => exact h.read hr hlive hmsg
  | post e p res ha hp =>
      have hpost : ∀ p', (t.post e p res).total p' = t.total p' + if p = p' then 1 else 0 := by
        intro p'
        simp only [total, Transfers.post, List.countP_append, List.countP_cons, List.countP_nil,
          beq_iff_eq]
        omega
      have hmem : ∀ p', (if p' ∈ p :: t.posted then 1 else 0)
          = (if p' ∈ t.posted then 1 else 0) + if p = p' then 1 else 0 := by
        intro p'
        by_cases he : p = p'
        · subst he
          simp [hp]
        · simp [he, Ne.symm he]
      refine ⟨fun p' => ?_, fun hd p' => ?_⟩
      · rw [hpost]
        exact (Nat.add_le_add_right (h.bound p') _).trans (le_of_eq (hmem p').symm)
      · rw [hpost, h.kept hd p']
        exact (hmem p').symm

theorem move (h : Counted t) (hr : Records t) (hmove : Move t t') : Counted t' := by
  cases hmove with
  | removeAll => exact h.lost (fun _ => le_refl _) rfl rfl
  | guard => exact h.lost (fun _ => le_refl _) rfl rfl
  | visit actor n todo hph =>
      have hd : t.isDetached = true := by
        have hflags := hr.flags
        unfold Flags at hflags
        rw [hph] at hflags
        exact hflags.1
      have hvisit : ∀ p, (t.visit n).total p ≤ t.total p := by
        intro p
        unfold Transfers.visit
        split
        · exact le_refl _
        · rename_i o _
          split
          · have hsub : List.Sublist
                (t.messages.filter fun msg => msg.1 != (t.obj o).curl) t.messages :=
              List.filter_sublist
            have hle := hsub.countP_le (p := fun msg => msg.2.1 == p)
            have hlog : (t.log ++ [Event.libcurl (.removeHandle o)]).countP (Event.isCompletion p)
                = t.log.countP (Event.isCompletion p) := by
              simp [List.countP_append, Event.isCompletion_libcurl]
            show _ + _ + (t.log ++ [Event.libcurl (.removeHandle o)]).countP _ ≤ _
            rw [hlog]
            exact Nat.add_le_add_right (Nat.add_le_add_right hle _) _
          · exact le_refl _
      have hposted : (t.visit n).posted = t.posted := by
        unfold Transfers.visit
        split
        · rfl
        · split <;> rfl
      exact h.lost hvisit hposted ((Records.visit_frame n).2.2.2.1.trans hd)
  | drop actor n todo =>
      have hdrop : Counted (t.drop n) := by
        unfold Transfers.drop
        split
        · exact h
        · exact h.logs rfl rfl rfl rfl rfl (by simp [Event.isCompletion])
      exact hdrop.same (fun _ => rfl) rfl id
  | shutdown => exact h.logs rfl rfl rfl rfl rfl (by simp [Event.isCompletion])
  | globalCleanup => exact h.logs rfl rfl rfl rfl rfl (by simp [Event.isCompletion])
  | _ => exact h.same (fun _ => rfl) rfl id

theorem reachable (hN : ∀ ph, N ph → ph.IsLive) (h : Reachable N t) : Counted t := by
  induction h with
  | refl => exact .boot
  | tail hreach hstep ih =>
      have hr := Records.reachable hN hreach
      rcases hstep with hop | hmove
      · exact ih.op hr hop
      · exact ih.move hr hmove

end Counted

end Transfers

/-! ### The controller -/

namespace AmxCurlController

variable {m : AmxCurlController} {tr : List Action}

/-- `p` is a call of `curl_easy_perform` in the trace, and `args` what it was given. -/
def PerformedWith (tr : List Action) (p : PerformId) (args : PerformArgs) : Prop :=
  ∃ t₁ h fun_ dataLen t₂ m₁, tr = t₁ ++ .easyPerform h true fun_ dataLen :: t₂ ∧
    machine.Run Machine.Free t₁ m₁ ∧ m₁.performs.next = p ∧ args = m₁.performArgs h fun_ dataLen

theorem PerformedWith.snoc {p : PerformId} {args : PerformArgs} (h : PerformedWith tr p args)
    (a : Action) : PerformedWith (tr ++ [a]) p args := by
  obtain ⟨t₁, h, fun_, dataLen, t₂, m₁, rfl, hrest⟩ := h
  exact ⟨t₁, h, fun_, dataLen, t₂ ++ [a], m₁, by simp, hrest⟩

theorem completion_filter (l : List Event) (p : PerformId) :
    (l.filter Event.isMajor).countP (Event.isCompletion p) = l.countP (Event.isCompletion p) := by
  rw [List.countP_filter]
  refine List.countP_congr fun e _ => ?_
  cases e <;> simp [Event.isCompletion, Event.isMajor]

end AmxCurlController

end AmxxCurl
