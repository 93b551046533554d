/-
What becomes of a perform that libcurl has accepted.

Its easy handle is attached until libcurl is done with it; then the DONE is queued, its
completion waits for `curl_multi_remove_handle`, and has run.  `Once` says that a perform
has one place at a time: it is added once, attached under one easy handle, and not attached
any more when it has been completed.  Until the flag is set no accepted perform is without
a place, so that what is not attached has been posted.
-/
import AmxxCurl.Amx.Order

namespace AmxxCurl

open AmxCurlController
open Transfers (Op Move Reachable Records)

/-- The perform that is inside `curl_multi_add_handle`. -/
def Task.adds : Task → Option PerformId
  | .adding p => some p
  | .removing _ _ => none

namespace Transfers

variable {N : Phase → Prop} {t t' : Transfers}

/-- The performs inside `curl_multi_add_handle`. -/
def adds (t : Transfers) : List PerformId := t.tasks.filterMap (·.2.adds)

theorem mem_adds {p : PerformId} : p ∈ t.adds ↔ ∃ o, (o, .adding p) ∈ t.tasks := by
  unfold adds
  rw [List.mem_filterMap]
  constructor
  · rintro ⟨⟨o, k⟩, hk, heq⟩
    cases k with
    | adding p' =>
        obtain rfl := Option.some.inj heq
        exact ⟨o, hk⟩
    | removing p' res => exact absurd heq (by simp [Task.adds])
  · rintro ⟨o, hk⟩
    exact ⟨_, hk, rfl⟩

/-- A perform has one place at a time, and an accepted one has a place. -/
structure Once (t : Transfers) : Prop where
  bounded : ∀ ⦃p⦄, .accepted p ∈ t.log → p < t.performs.next
  nodup : t.adds.Nodup
  adding : ∀ ⦃p⦄, p ∈ t.adds → (∀ e, t.attached.lookup e ≠ some p) ∧ .accepted p ∉ t.log
  injective : ∀ ⦃e e' p⦄, t.attached.lookup e = some p → t.attached.lookup e' = some p → e = e'
  attached : ∀ ⦃e p⦄, t.attached.lookup e = some p → ∀ args, .completed p args ∉ t.log
  kept : t.isDetached = false → ∀ ⦃p⦄, .accepted p ∈ t.log →
    p ∈ t.posted ∨ ∃ e, t.attached.lookup e = some p

namespace Once

theorem boot : Once boot where
  bounded := by simp [Transfers.boot]
  nodup := List.nodup_nil
  adding := by simp [Transfers.boot, Transfers.adds]
  injective := by
    intro e e' p he
    simp [Transfers.boot] at he
  attached := by simp [Transfers.boot]
  kept := by simp [Transfers.boot]

/-- No perform starts, is accepted or is completed, and none gets another place. -/
theorem same (h : Once t) (hperf : t'.performs = t.performs) (hadds : t'.adds = t.adds)
    (hatt : t'.attached = t.attached) {es : List Event} (hlog : t'.log = t.log ++ es)
    (hacc : ∀ p, .accepted p ∉ es) (hdone : ∀ p args, .completed p args ∉ es)
    (hposted : ∀ p ∈ t.posted, p ∈ t'.posted)
    (hd : t'.isDetached = false → t.isDetached = false) : Once t' := by
  have haccepted : ∀ {p}, .accepted p ∈ t'.log → .accepted p ∈ t.log := by
    intro p hp
    rw [hlog] at hp
    exact (List.mem_append.mp hp).resolve_right (hacc p)
  refine ⟨fun p hp => ?_, ?_, fun p hp => ?_, ?_, fun e p he args hp => ?_, fun hd' p hp => ?_⟩
  · rw [hperf]
    exact h.bounded (haccepted hp)
  · rw [hadds]
    exact h.nodup
  · rw [hadds] at hp
    rw [hatt]
    exact ⟨(h.adding hp).1, fun hl => (h.adding hp).2 (haccepted hl)⟩
  · rw [hatt]
    exact h.injective
  · rw [hatt] at he
    rw [hlog] at hp
    exact h.attached he args ((List.mem_append.mp hp).resolve_right (hdone p args))
  · rw [hatt]
    exact (h.kept (hd hd') (haccepted hp)).imp_left (hposted p)

/-- The ids in use are smaller than the next one. -/
theorem fresh (h : Once t) (hr : Records t) (hg : Given t) :
    t.performs.next ∉ t.adds ∧ (∀ e, t.attached.lookup e ≠ some t.performs.next) ∧
      .accepted t.performs.next ∉ t.log := by
  refine ⟨fun hp => ?_, fun e he => ?_, fun hp => Nat.lt_irrefl _ (h.bounded hp)⟩
  · obtain ⟨o, hk⟩ := mem_adds.mp hp
    exact Nat.lt_irrefl _ (hg.adding hk).1
  · obtain ⟨o, ho⟩ := hr.attachOwner he
    exact Nat.lt_irrefl _ (hg.attached ho he).1

theorem add (h : Once t) (hr : Records t) (hg : Given t) (o : ObjId) (args : PerformArgs) :
    Once (t.add o args) := by
  obtain ⟨hadds, hatt, hacc⟩ := h.fresh hr hg
  have haccepted : ∀ {p}, .accepted p ∈ (t.add o args).log → .accepted p ∈ t.log := by
    intro p hp
    exact (List.mem_append.mp hp).resolve_right (by simp)
  have hnew : (t.add o args).adds = t.performs.next :: t.adds := rfl
  refine ⟨fun p hp => ?_, ?_, fun p hp => ?_, h.injective, fun e p he args' hp => ?_,
    fun hd p hp => h.kept hd (haccepted hp)⟩
  · exact Nat.lt_succ_of_lt (h.bounded (haccepted hp))
  · rw [hnew]
    exact List.nodup_cons.mpr ⟨hadds, h.nodup⟩
  · rw [hnew] at hp
    rcases List.mem_cons.mp hp with rfl | hp
    · exact ⟨hatt, fun hl => hacc (haccepted hl)⟩
    · exact ⟨(h.adding hp).1, fun hl => (h.adding hp).2 (haccepted hl)⟩
  · exact h.attached he args' ((List.mem_append.mp hp).resolve_right (by simp))

theorem added (h : Once t) (hg : Given t) {o : ObjId} {p : PerformId}
    {rest : List (ObjId × Task)} (hs : t.tasks = (o, .adding p) :: rest)
    (hfree : t.attached.lookup (t.obj o).curl = none) : Once (t.added o p rest) := by
  have hcons : t.adds = p :: (t.added o p rest).adds := by
    unfold adds
    rw [hs]
    rfl
  obtain ⟨hatt, hacc⟩ := h.adding (hcons ▸ List.mem_cons_self ..)
  obtain ⟨hnot, hnodup⟩ := List.nodup_cons.mp (hcons ▸ h.nodup)
  have hlog : (t.added o p rest).log = t.log ++ [.libcurl (.added o true), .accepted p] := rfl
  refine ⟨fun p' hp => ?_, hnodup, fun p' hp => ⟨fun e he => ?_, fun hl => ?_⟩,
    fun e e' p' he he' => ?_, fun e p' he args hc => ?_, fun hd p' hp => ?_⟩
  · rcases List.mem_append.mp (hlog ▸ hp) with hp | hp
    · exact h.bounded hp
    · obtain rfl : p' = p := by simpa using hp
      exact (hg.adding (hs ▸ List.mem_cons_self ..)).1
  · rcases Table.lookup_insert_eq_some.mp he with ⟨-, rfl⟩ | ⟨-, he⟩
    · exact hnot hp
    · exact (h.adding (hcons ▸ List.mem_cons_of_mem _ hp)).1 e he
  · rcases List.mem_append.mp (hlog ▸ hl) with hl | hl
    · exact (h.adding (hcons ▸ List.mem_cons_of_mem _ hp)).2 hl
    · obtain rfl : p' = p := by simpa using hl
      exact hnot hp
  · rcases Table.lookup_insert_eq_some.mp he with ⟨rfl, rfl⟩ | ⟨-, hold⟩
    · rcases Table.lookup_insert_eq_some.mp he' with ⟨rfl, -⟩ | ⟨-, hold'⟩
      · rfl
      · exact absurd hold' (hatt e')
    · rcases Table.lookup_insert_eq_some.mp he' with ⟨rfl, rfl⟩ | ⟨-, hold'⟩
      · exact absurd hold (hatt e)
      · exact h.injective hold hold'
  · have hdone : .completed p' args ∈ t.log :=
      (List.mem_append.mp (hlog ▸ hc)).resolve_right (by simp)
    rcases Table.lookup_insert_eq_some.mp he with ⟨-, rfl⟩ | ⟨-, hold⟩
    · exact hacc (hg.completed hdone).2.2
    · exact h.attached hold args hdone
  · rcases List.mem_append.mp (hlog ▸ hp) with hp | hp
    · refine (h.kept hd hp).imp_right ?_
      rintro ⟨e, he⟩
      refine ⟨e, Table.lookup_insert_eq_some.mpr (Or.inr ⟨?_, he⟩)⟩
      rintro rfl
      rw [hfree] at he
      simp at he
    · obtain rfl : p' = p := by simpa using hp
      exact Or.inr ⟨_, Finmap.lookup_insert _⟩

/-- A completion takes the perform off the multi and records it, both at once. -/
theorem complete (h : Once t) (hr : Records t) (hc : Counted t) {o : ObjId} {p : PerformId}
    {res : CurlCode} {rest : List (ObjId × Task)} (hs : t.tasks = (o, .removing p res) :: rest) :
    Once (t.complete o p rest) := by
  have htask : (o, Task.removing p res) ∈ t.tasks := hs ▸ List.mem_cons_self ..
  have hatt := hr.removing htask
  have hposted : p ∈ t.posted := by
    by_contra hnot
    have hbound := hc.bound p
    rw [if_neg hnot] at hbound
    have hpos : 0 < t.tasks.countP (·.2.isRemoving p) :=
      List.countP_pos_iff.mpr ⟨_, htask, by simp [Task.isRemoving]⟩
    unfold total at hbound
    omega
  have hadds : (t.complete o p rest).adds = t.adds := by
    unfold adds
    rw [hs]
    rfl
  have hlog : ∃ args, (t.complete o p rest).log
      = t.log ++ [.libcurl (.removeHandle o)] ++ [.completed p args] := ⟨_, rfl⟩
  obtain ⟨args, hlog⟩ := hlog
  have haccepted : ∀ {p'}, .accepted p' ∈ (t.complete o p rest).log → .accepted p' ∈ t.log := by
    intro p' hp
    rw [hlog] at hp
    simpa using hp
  have hold : ∀ {e p'}, (t.complete o p rest).attached.lookup e = some p' →
      e ≠ (t.obj o).curl ∧ t.attached.lookup e = some p' := fun he =>
    Table.lookup_erase_eq_some.mp he
  refine ⟨fun p' hp => h.bounded (haccepted hp), ?_, fun p' hp => ⟨fun e he => ?_, fun hl => ?_⟩,
    fun e e' p' he he' => h.injective (hold he).2 (hold he').2, fun e p' he args' hdone => ?_,
    fun hd p' hp => ?_⟩
  · rw [hadds]
    exact h.nodup
  · rw [hadds] at hp
    exact (h.adding hp).1 e (hold he).2
  · rw [hadds] at hp
    exact (h.adding hp).2 (haccepted hl)
  · obtain ⟨hne, hatt'⟩ := hold he
    rw [hlog] at hdone
    rcases List.mem_append.mp hdone with hdone | hdone
    · exact h.attached hatt' args' ((List.mem_append.mp hdone).resolve_right (by simp))
    · obtain ⟨rfl, -⟩ := Event.completed.inj (List.mem_singleton.mp hdone)
      exact hne (h.injective hatt' hatt)
  · rcases h.kept hd (haccepted hp) with hp | ⟨e, he⟩
    · exact Or.inl hp
    · by_cases heq : e = (t.obj o).curl
      · subst heq
        obtain rfl := Option.some.inj (hatt.symm.trans he)
        exact Or.inl hposted
      · exact Or.inr ⟨e, Table.lookup_erase_eq_some.mpr ⟨heq, he⟩⟩

theorem op (h : Once t) (hr : Records t) (hg : Given t) (hc : Counted t) (hop : Op N t t') :
    Once t' := by
  cases hop with
  | create => exact h.same rfl rfl rfl rfl (by simp) (by simp) (fun _ => id) id
  | createLost => exact h.same rfl rfl rfl rfl (by simp) (by simp) (fun _ => id) id
  | destroy => exact h.same rfl rfl rfl rfl (by simp) (by simp) (fun _ => id) id
  | reset => exact h.same rfl rfl rfl rfl (by simp) (by simp) (fun _ => id) id
  | refuse =>
      exact h.same rfl rfl rfl (List.append_nil _).symm (by simp) (by simp) (fun _ => id) id
  | add n o args => exact h.add hr hg o args
  | added o p rest hs hm hfree => exact h.added hg hs hfree
  | addFailed o p rest hs =>
      have hcons : t.adds = p :: (t.addFailed o rest).adds := by
        unfold adds
        rw [hs]
        rfl
      have haccepted : ∀ {p'}, .accepted p' ∈ (t.addFailed o rest).log → .accepted p' ∈ t.log :=
        fun hp => (List.mem_append.mp hp).resolve_right (by simp)
      refine ⟨fun p' hp => h.bounded (haccepted hp), (List.nodup_cons.mp (hcons ▸ h.nodup)).2,
        fun p' hp => ?_, h.injective, fun e p' he args hdone => ?_,
        fun hd p' hp => h.kept hd (haccepted hp)⟩
      · obtain ⟨hatt, hacc⟩ := h.adding (hcons ▸ List.mem_cons_of_mem _ hp)
        exact ⟨hatt, fun hl => hacc (haccepted hl)⟩
      · exact h.attached he args ((List.mem_append.mp hdone).resolve_right (by simp))
  | complete o p res rest hs => exact h.complete hr hc hs
  | read e p res rest hlive hmsg =>
      unfold Transfers.read
      split
      · exact h.same rfl rfl rfl (List.append_nil _).symm (by simp) (by simp) (fun _ => id) id
      · exact h.same rfl rfl rfl (List.append_nil _).symm (by simp) (by simp) (fun _ => id) id
  | post e p res ha hp =>
      exact h.same rfl rfl rfl (List.append_nil _).symm (by simp) (by simp)
        (fun _ => List.mem_cons_of_mem _) id

/-- Once the flag is set, performs may be taken off the multi without a completion. -/
theorem detach (h : Once t) (hd : t.isDetached = true) (o : ObjId) : Once (t.detach o) := by
  have hold : ∀ {e p}, (t.detach o).attached.lookup e = some p → t.attached.lookup e = some p :=
    fun he => (Table.lookup_erase_eq_some.mp he).2
  have haccepted : ∀ {p}, .accepted p ∈ (t.detach o).log → .accepted p ∈ t.log :=
    fun hp => (List.mem_append.mp hp).resolve_right (by simp)
  refine ⟨fun p hp => h.bounded (haccepted hp), h.nodup, fun p hp => ?_,
    fun e e' p he he' => h.injective (hold he) (hold he'), fun e p he args hdone => ?_,
    fun hd' => absurd (hd.symm.trans hd') (by simp)⟩
  · exact ⟨fun e he => (h.adding hp).1 e (hold he), fun hl => (h.adding hp).2 (haccepted hl)⟩
  · exact h.attached (hold he) args ((List.mem_append.mp hdone).resolve_right (by simp))

theorem move (h : Once t) (hr : Records t) (hmove : Move t t') : Once t' := by
  have hquiet : ∀ {t₁ : Transfers}, t₁.performs = t.performs → t₁.adds = t.adds →
      t₁.attached = t.attached → t₁.log = t.log → t₁.posted = t.posted →
      (t₁.isDetached = false → t.isDetached = false) → Once t₁ := by
    intro t₁ hperf hadds hatt hlog hposted hd
    refine h.same hperf hadds hatt (hlog.trans (List.append_nil _).symm) (by simp) (by simp) ?_ hd
    rw [hposted]
    exact fun _ => id
  cases hmove with
  | visit actor n todo hph =>
      have hd : t.isDetached = true := by
        have hflags := hr.flags
        unfold Flags at hflags
        rw [hph] at hflags
        exact hflags.1
      have hvisit : Once (t.visit n) := by
        unfold Transfers.visit
        split
        · exact h
        · rename_i o _
          split
          · have herased : Once { t with curlMap := t.curlMap.erase (t.obj o).curl } :=
              hquiet rfl rfl rfl rfl rfl id
            exact herased.detach hd o
          · exact h
      exact hvisit.same rfl rfl rfl (List.append_nil _).symm (by simp) (by simp) (fun _ => id) id
  | drop actor n todo =>
      have hdrop : Once (t.drop n) := by
        unfold Transfers.drop
        split
        · exact h
        · exact h.same rfl rfl rfl rfl (by simp) (by simp) (fun _ => id) id
      exact hdrop.same rfl rfl rfl (List.append_nil _).symm (by simp) (by simp) (fun _ => id) id
  | shutdown => exact h.same rfl rfl rfl rfl (by simp) (by simp) (fun _ => id) id
  | globalCleanup => exact h.same rfl rfl rfl rfl (by simp) (by simp) (fun _ => id) id
  | removeAll => exact hquiet rfl rfl rfl rfl rfl (fun hd => absurd hd (by simp))
  | guard => exact hquiet rfl rfl rfl rfl rfl (fun hd => absurd hd (by simp))
  | _ => exact hquiet rfl rfl rfl rfl rfl id

theorem reachable (hN : ∀ ph, N ph → ph.IsLive) (h : Reachable N t) : Once t := by
  induction h with
  | refl => exact .boot
  | tail hreach hstep ih =>
      have hr := Records.reachable hN hreach
      rcases hstep with hop | hmove
      · exact ih.op hr (.reachable hN hreach) (.reachable hN hreach) hop
      · exact ih.move hr hmove

end Once

end Transfers

namespace AmxCurlController

variable {m : AmxCurlController} {tr : List Action} {C : AmxCurlController → Action → Prop}

theorem run_once (hrun : machine.Run C tr m) : Transfers.Once m.transfers :=
  .reachable (fun _ => id) (run_reachable hrun).1

/-- A DONE is counted where it is in the line. -/
theorem line_count (m : AmxCurlController) (p : PerformId) : m.line.count p = m.transfers.total p := by
  have htasks : (m.stack.filterMap Frame.completes).count p =
      m.transfers.tasks.countP (·.2.isRemoving p) := by
    show _ = (m.stack.filterMap Frame.task).countP _
    rw [List.count, List.countP_filterMap, List.countP_filterMap]
    refine List.countP_congr fun f _ => ?_
    cases f <;> simp [Frame.completes, Frame.task, Task.isRemoving]
  have hmsg : (m.messages.map (·.2.1)).count p = m.transfers.messages.countP (·.2.1 == p) := by
    rw [List.count, List.countP_map]
    rfl
  unfold line Transfers.total
  rw [List.count_append, List.count_append, completed_count, htasks, hmsg,
    show m.transfers.log.countP (Event.isCompletion p) = m.log.countP (Event.isCompletion p) from
      completion_filter m.log p]
  omega

/-- What is on its way to its completion is attached still. -/
theorem attached_of_waiting (hr : Records m.transfers) {p : PerformId} (hline : p ∈ m.line)
    (hnot : p ∉ m.completed) : ∃ e, m.attached.lookup e = some p := by
  rcases List.mem_append.mp ((List.mem_append.mp hline).resolve_left hnot) with hp | hp
  · obtain ⟨f, hf, heq⟩ := List.mem_filterMap.mp hp
    cases f with
    | removing o p' res =>
        obtain rfl := Option.some.inj heq
        exact ⟨_, hr.removing (List.mem_filterMap.mpr ⟨_, hf, rfl⟩)⟩
    | _ => exact absurd heq (by simp [Frame.completes])
  · obtain ⟨⟨e, p', res⟩, hmsg, rfl⟩ := List.mem_map.mp hp
    exact ⟨e, hr.queued hmsg⟩

theorem mem_completed {p : PerformId} : p ∈ m.completed ↔ ∃ args, .completed p args ∈ m.log := by
  unfold completed
  rw [List.mem_filterMap]
  constructor
  · rintro ⟨e, he, heq⟩
    cases e with
    | completed p' args =>
        obtain rfl := Option.some.inj heq
        exact ⟨args, he⟩
    | _ => exact absurd heq (by simp [Event.completes])
  · rintro ⟨args, hargs⟩
    exact ⟨_, hargs, rfl⟩

/-- What is attached has not been completed. -/
theorem attached_not_completed (ho : Transfers.Once m.transfers) {e : CurlPtr} {p : PerformId}
    (he : m.attached.lookup e = some p) : p ∉ m.completed := by
  intro hp
  obtain ⟨args, hargs⟩ := mem_completed.mp hp
  exact ho.attached he args (List.mem_filter.mpr ⟨hargs, rfl⟩)

/--
**An accepted perform is never lost, and never in two places.**  Until the module is
detached, libcurl has it under one easy handle and is not done with it, or its DONE is in
the line once; and then it has been completed if and only if libcurl has let go of it.
-/
theorem accepted_in_one_place (hrun : machine.Run Machine.Free tr m) (hd : m.isDetached = false)
    {p : PerformId} (hacc : .accepted p ∈ m.log) :
    (m.line.count p = 0 ∧ p ∉ m.posted ∧ ∃! e, m.attached.lookup e = some p) ∨
    (m.line.count p = 1 ∧ p ∈ m.posted ∧
      (p ∈ m.completed ↔ ∀ e, m.attached.lookup e ≠ some p)) := by
  have hregular := run_regular hrun
  have honce := run_once hrun
  have htotal := hregular.counted.kept hd p
  rw [← line_count] at htotal
  by_cases hp : p ∈ m.posted
  · right
    rw [if_pos (show p ∈ m.transfers.posted from hp)] at htotal
    refine ⟨htotal, hp, fun hdone e he => attached_not_completed honce he hdone, fun hnone => ?_⟩
    by_contra hnot
    have hline : p ∈ m.line := List.count_pos_iff.mp (htotal ▸ Nat.one_pos)
    obtain ⟨e, he⟩ := attached_of_waiting hregular.records hline hnot
    exact hnone e he
  · left
    rw [if_neg (show p ∉ m.transfers.posted from hp)] at htotal
    obtain ⟨e, he⟩ := (honce.kept hd (List.mem_filter.mpr ⟨hacc, rfl⟩)).resolve_left hp
    exact ⟨htotal, hp, e, he, fun e' he' => honce.injective he' he⟩

theorem accepted_in_one_place_overtaken :
    overtaken.line.count 2 = 1 ∧ (2 ∈ overtaken.completed ↔
      ∀ e, overtaken.attached.lookup e ≠ some 2) := by
  have hrun : machine.Run Machine.Free overtaking overtaken :=
    Machine.run_of_exec (Option.some_get _).symm
  rcases accepted_in_one_place hrun (by decide) (show Event.accepted 2 ∈ overtaken.log by decide) with
    ⟨-, hnot, -⟩ | ⟨hone, -, hiff⟩
  · exact absurd (by decide) hnot
  · exact ⟨hone, hiff⟩

end AmxCurlController

end AmxxCurl
