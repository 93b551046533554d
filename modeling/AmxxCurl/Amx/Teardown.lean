/-
Taking libcurl down.

Three actors take part: `OnAmxxDetach`, the guard that runs at exit, and the destructors.
Whichever of them run, an easy handle is cleaned up once, after it has been taken off
the multi, and the multi after all of them; and once `curl_global_cleanup` has been
called there is nothing left to call libcurl for.
-/
import AmxxCurl.Amx.Agreement

namespace AmxxCurl

open AmxCurlController
open Transfers (Op Move Reachable Records)

namespace AmxCurlController

/-- Frames run, or the drain loop does. -/
def Phase.IsOpen (ph : Phase) : Prop := ph = .running ∨ ph = .draining

theorem Phase.IsOpen.isLive {ph : Phase} (h : ph.IsOpen) : ph.IsLive := h.imp_right Or.inl

/-- What comes after `curl_global_cleanup`. -/
def Phase.IsAfter : Phase → Prop
  | .detached | .exiting | .clearing .destructor _ | .shutdown .destructor | .gone => True
  | _ => False

/-- After `curl_multi_cleanup` neither it nor `curl_easy_cleanup` is called. -/
def MultiLast (pre : List Event) (e : Event) : Prop :=
  (e = .libcurl .multiCleanup ∨ ∃ o, e = .libcurl (.easyCleanup o)) →
    .libcurl .multiCleanup ∉ pre

/-- An event about the life of an easy handle or of the multi. -/
def Event.isLife : Event → Bool
  | .libcurl (.easyInit _) => true
  | .libcurl (.easyCleanup _) => true
  | .libcurl .multiCleanup => true
  | _ => false

end AmxCurlController

namespace Transfers

variable {N : Phase → Prop} {t t' : Transfers}

/-! ### Each easy handle is cleaned up once -/

/-- The log tells which easy handles there are. -/
structure Cleaned (t : Transfers) : Prop where
  fresh : ∀ ⦃o⦄, t.objs.next ≤ o →
    .libcurl (.easyInit o) ∉ t.log ∧ .libcurl (.easyCleanup o) ∉ t.log
  live : ∀ ⦃o⦄, t.IsLive o → .libcurl (.easyCleanup o) ∉ t.log
  dead : ∀ ⦃o⦄, o < t.objs.next → ¬t.IsLive o → t.log.count (.libcurl (.easyCleanup o)) = 1
  multi : t.log.count (.libcurl .multiCleanup) = if t.curlMulti then 0 else 1

namespace Cleaned

theorem boot : Cleaned boot where
  fresh := by simp [Transfers.boot]
  live := by simp [Transfers.boot]
  dead := by simp [Transfers.boot]
  multi := by simp [Transfers.boot]

/-- At no time has an easy handle been cleaned up twice. -/
theorem once (h : Cleaned t) (o : ObjId) : t.log.count (.libcurl (.easyCleanup o)) ≤ 1 := by
  by_cases hl : t.IsLive o
  · rw [List.count_eq_zero.mpr (h.live hl)]
    exact Nat.zero_le 1
  · rcases Nat.lt_or_ge o t.objs.next with hlt | hge
    · exact (h.dead hlt hl).le
    · rw [List.count_eq_zero.mpr (h.fresh hge).2]
      exact Nat.zero_le 1

/-- Changes that concern no easy handle as such. -/
theorem same (h : Cleaned t) (hhandles : t'.handles = t.handles)
    (hnext : t'.objs.next = t.objs.next) (hmulti : t'.curlMulti = t.curlMulti) {es : List Event}
    (hlog : t'.log = t.log ++ es) (hes : ∀ e ∈ es, e.isLife = false) : Cleaned t' := by
  have hnot : ∀ {e : Event}, e.isLife = true → e ∉ es := by
    intro e he hmem
    rw [hes e hmem] at he
    simp at he
  have hcount : ∀ {e : Event}, e.isLife = true → t'.log.count e = t.log.count e := by
    intro e he
    rw [hlog, List.count_append, List.count_eq_zero.mpr (hnot he), Nat.add_zero]
  have hmem : ∀ {e : Event}, e.isLife = true → (e ∈ t'.log ↔ e ∈ t.log) := by
    intro e he
    rw [hlog, List.mem_append, or_iff_left (hnot he)]
  have hlive : ∀ {o}, t'.IsLive o ↔ t.IsLive o := by
    intro o
    unfold IsLive
    rw [hhandles]
  refine ⟨fun o ho => ?_, fun o ho => ?_, fun o hlt ho => ?_, ?_⟩
  · rw [hmem rfl, hmem rfl]
    exact h.fresh (hnext ▸ ho)
  · rw [hmem rfl]
    exact h.live (hlive.mp ho)
  · rw [hcount rfl]
    exact h.dead (hnext ▸ hlt) fun hl => ho (hlive.mpr hl)
  · rw [hcount rfl, hmulti]
    exact h.multi

theorem create (h : Cleaned t) {n : AmxCurlHandle} {e : CurlPtr}
    (hn : t.handles.lookup n = none) : Cleaned (t.create n e) := by
  have hlog : (t.create n e).log = t.log ++ [Event.libcurl (.easyInit t.objs.next)] := rfl
  refine ⟨fun o ho => ?_, ?_, fun o hlt ho => ?_, ?_⟩
  · have hlt : t.objs.next < o := ho
    obtain ⟨hi, hc⟩ := h.fresh hlt.le
    simp [hlog, hi, hc, Nat.ne_of_gt hlt]
  · rintro o ⟨j, hj⟩
    rcases Table.lookup_insert_eq_some.mp hj with ⟨-, rfl⟩ | ⟨-, hj⟩
    · simp [hlog, (h.fresh (le_refl _)).2]
    · simp [hlog, h.live ⟨j, hj⟩]
  · have hne : o ≠ t.objs.next := by
      rintro rfl
      exact ho ⟨n, Finmap.lookup_insert _⟩
    have hold : ¬t.IsLive o := by
      rintro ⟨j, hj⟩
      refine ho ⟨j, (Finmap.lookup_insert_of_ne _ ?_).trans hj⟩
      rintro rfl
      rw [hn] at hj
      simp at hj
    rw [hlog, List.count_append, h.dead (by have : o < t.objs.next + 1 := hlt; omega) hold]
    simp
  · rw [hlog, List.count_append, h.multi]
    rfl

theorem createLost (h : Cleaned t) (hr : Records t) {e : CurlPtr} : Cleaned ((t.alloc e).emit
    [.libcurl (.easyInit t.objs.next), .libcurl (.easyCleanup t.objs.next)]) := by
  have hlog : ((t.alloc e).emit [.libcurl (.easyInit t.objs.next),
      .libcurl (.easyCleanup t.objs.next)]).log = t.log ++ [Event.libcurl (.easyInit t.objs.next),
      .libcurl (.easyCleanup t.objs.next)] := rfl
  refine ⟨fun o ho => ?_, fun o ho => ?_, fun o hlt ho => ?_, ?_⟩
  · have hlt : t.objs.next < o := ho
    obtain ⟨hi, hc⟩ := h.fresh hlt.le
    simp [hlog, hi, hc, Nat.ne_of_gt hlt]
  · have hl : t.IsLive o := ho
    simp [hlog, h.live hl, Nat.ne_of_lt (hr.objLt hl)]
  · rw [hlog, List.count_append]
    by_cases hne : o = t.objs.next
    · subst hne
      rw [List.count_eq_zero.mpr (h.fresh (le_refl _)).2]
      simp
    · rw [h.dead (by have : o < t.objs.next + 1 := hlt; omega) ho]
      simp [Ne.symm hne]
  · rw [hlog, List.count_append, h.multi]
    rfl

theorem destroy (h : Cleaned t) (hr : Records t) {n : AmxCurlHandle} {o : ObjId}
    (hn : t.handles.lookup n = some o) : Cleaned (t.destroy n o) := by
  have hlog : (t.destroy n o).log = t.log ++ [Event.libcurl (.easyCleanup o)] := rfl
  have hself : ¬(t.destroy n o).IsLive o := by
    rintro ⟨j, hj⟩
    obtain ⟨hne, hold⟩ := Table.lookup_erase_eq_some.mp hj
    exact hne (hr.handleInj hold hn)
  refine ⟨fun o' ho => ?_, ?_, fun o' hlt ho => ?_, ?_⟩
  · obtain ⟨hi, hc⟩ := h.fresh ho
    have hne : o' ≠ o := by
      rintro rfl
      exact absurd (hr.objLt ⟨n, hn⟩) (Nat.not_lt.mpr ho)
    simp [hlog, hi, hc, hne]
  · intro o' ho'
    have hne : o' ≠ o := by
      rintro rfl
      exact hself ho'
    obtain ⟨j, hj⟩ := ho'
    simp [hlog, h.live ⟨j, (Table.lookup_erase_eq_some.mp hj).2⟩, hne]
  · rw [hlog, List.count_append]
    by_cases hne : o' = o
    · subst hne
      rw [List.count_eq_zero.mpr (h.live ⟨n, hn⟩)]
      simp
    · rw [h.dead hlt ?_]
      · simp [Ne.symm hne]
      · rintro ⟨j, hj⟩
        refine ho ⟨j, Table.lookup_erase_eq_some.mpr ⟨?_, hj⟩⟩
        rintro rfl
        exact hne (Option.some.inj (hj.symm.trans hn))
  · rw [hlog, List.count_append, h.multi]
    rfl

theorem op (h : Cleaned t) (hr : Records t) (hop : Op N t t') : Cleaned t' := by
  cases hop with
  | create n e hlive he hh => exact h.create hh
  | createLost e => exact h.createLost hr
  | destroy n o hlive hh => exact h.destroy hr hh
  | reset => exact h.same rfl rfl rfl rfl (by simp [Event.isLife])
  | refuse => exact h.same rfl rfl rfl (List.append_nil _).symm (by simp)
  | add => exact h.same rfl rfl rfl rfl (by simp [Event.isLife])
  | added => exact h.same rfl rfl rfl rfl (by simp [Event.isLife])
  | addFailed => exact h.same rfl rfl rfl rfl (by simp [Event.isLife])
  | complete o p res rest =>
      have hdet : Cleaned (t.detach o) := h.same rfl rfl rfl rfl (by simp [Event.isLife])
      exact hdet.same rfl rfl rfl rfl (by simp [Event.isLife])
  | read e p res rest =>
      unfold Transfers.read
      split <;> exact h.same rfl rfl rfl (List.append_nil _).symm (by simp)
  | post => exact h.same rfl rfl rfl (List.append_nil _).symm (by simp)

theorem move (h : Cleaned t) (hr : Records t) (hmove : Move t t') : Cleaned t' := by
  cases hmove with
  | visit actor n todo =>
      have hvisit : Cleaned (t.visit n) := by
        unfold Transfers.visit
        split
        · exact h
        · split
          · exact h.same rfl rfl rfl rfl (by simp [Event.isLife])
          · exact h
      exact hvisit.same rfl rfl rfl (List.append_nil _).symm (by simp)
  | drop actor n todo =>
      have hdrop : Cleaned (t.drop n) := by
        unfold Transfers.drop
        split
        · exact h
        · rename_i o hn
          exact h.destroy hr hn
      exact hdrop.same rfl rfl rfl (List.append_nil _).symm (by simp)
  | shutdown actor hph hm =>
      have hmulti : t.log.count (.libcurl .multiCleanup) = 0 := by
        rw [h.multi, if_pos hm]
      exact ⟨fun o ho => by simp [Transfers.emit, h.fresh ho],
        fun o ho => by
          have hl : t.IsLive o := ho
          simp [Transfers.emit, h.live hl],
        fun o hlt ho => by
          have hc := h.dead hlt ho
          simpa [Transfers.emit, List.count_append] using hc,
        by simp [Transfers.emit, List.count_append, hmulti]⟩
  | globalCleanup => exact h.same rfl rfl rfl rfl (by simp [Event.isLife])
  | _ => exact h.same rfl rfl rfl (List.append_nil _).symm (by simp)

theorem reachable (hN : ∀ ph, N ph → ph.IsLive) (h : Reachable N t) : Cleaned t := by
  induction h with
  | refl => exact .boot
  | tail hreach hstep ih =>
      have hr := Records.reachable hN hreach
      rcases hstep with hop | hmove
      · exact ih.op hr hop
      · exact ih.move hr hmove

end Cleaned

/-! ### The multi is cleaned up last, and libcurl after it -/

/-- What is known when no native runs outside the phases `Phase.IsOpen`. -/
structure Closing (t : Transfers) : Prop where
  emptied : t.curlMulti = false → ∀ n, t.handles.lookup n = none
  destructed : ∀ ⦃todo⦄, t.phase = .clearing .destructor todo → ∀ n, t.handles.lookup n = none
  remover : ∀ ⦃actor todo⦄, t.phase = .removing actor todo → actor ≠ .destructor
  last : Each MultiLast t.log
  global : .libcurl .globalCleanup ∈ t.log → t.curlMulti = false ∧ t.phase.IsAfter

namespace Closing

theorem boot : Closing boot where
  emptied := by simp [Transfers.boot]
  destructed := by simp [Transfers.boot]
  remover := by simp [Transfers.boot]
  last := .nil
  global := by simp [Transfers.boot]

/-- While the multi is there its cleanup has not been called. -/
theorem no_multi (hc : Cleaned t) (hm : t.curlMulti = true) : .libcurl .multiCleanup ∉ t.log := by
  rw [← List.count_eq_zero, hc.multi, if_pos hm]

theorem open_multi (hr : Records t) (ho : t.phase.IsOpen) : t.curlMulti = true := by
  have hflags := hr.flags
  unfold Flags at hflags
  rcases ho with ho | ho <;> rw [ho] at hflags <;> exact hflags.2

/-- Nobody is added, and no cleanup is called. -/
theorem same (h : Closing t)
    (hhandles : ∀ n, t.handles.lookup n = none → t'.handles.lookup n = none)
    (hm : t'.curlMulti = t.curlMulti) (hph : t'.phase = t.phase) {es : List Event}
    (hlog : t'.log = t.log ++ es)
    (hes : ∀ e ∈ es, e.isLife = false ∧ e ≠ .libcurl .globalCleanup) : Closing t' where
  emptied := fun hdead n => hhandles n (h.emptied (hm ▸ hdead) n)
  destructed := fun todo hcl n => hhandles n (h.destructed (hph ▸ hcl) n)
  remover := fun actor todo hrem => h.remover (hph ▸ hrem)
  last := by
    rw [hlog]
    refine h.last.append fun e he pre hkind => ?_
    have hlife := (hes e he).1
    rcases hkind with rfl | ⟨o, rfl⟩ <;> simp [Event.isLife] at hlife
  global := by
    intro hg
    rw [hlog] at hg
    rw [hm, hph]
    refine h.global ((List.mem_append.mp hg).resolve_right fun hin => ?_)
    exact (hes _ hin).2 rfl

/-- An easy handle is cleaned up while the multi is there. -/
theorem destroy (h : Closing t) (hc : Cleaned t) (hm : t.curlMulti = true) (n : AmxCurlHandle)
    (o : ObjId) : Closing (t.destroy n o) where
  emptied := by
    intro hdead
    rw [show t.curlMulti = false from hdead] at hm
    simp at hm
  destructed := by
    intro todo hcl j
    show (t.handles.erase n).lookup j = none
    rw [Table.lookup_erase_if, h.destructed hcl j]
    exact ite_self _
  remover := h.remover
  last := h.last.snoc fun _ => no_multi hc hm
  global := by
    intro hg
    have hg : .libcurl .globalCleanup ∈ t.log ++ [Event.libcurl (.easyCleanup o)] := hg
    exact h.global (by simpa using hg)

theorem op (hN : ∀ ph, N ph → ph.IsOpen) (h : Closing t) (hr : Records t) (hc : Cleaned t)
    (hop : Op N t t') : Closing t' := by
  cases hop with
  | create n e hopen =>
      have hm := open_multi hr (hN _ hopen)
      refine ⟨fun hdead => ?_, fun todo hcl => ?_, h.remover, h.last.append (by simp [MultiLast]),
        fun hg => ?_⟩
      · rw [show t.curlMulti = false from hdead] at hm
        simp at hm
      · have hcl : t.phase = .clearing .destructor todo := hcl
        rcases hN _ hopen with ho | ho <;> rw [ho] at hcl <;> simp at hcl
      · have hg : .libcurl .globalCleanup ∈ t.log ++ [Event.libcurl (.easyInit t.objs.next)] := hg
        exact h.global (by simpa using hg)
  | createLost e hopen =>
      have hm := open_multi hr (hN _ hopen)
      have hinit : Closing ((t.alloc e).emit [.libcurl (.easyInit t.objs.next)]) := by
        refine ⟨h.emptied, h.destructed, h.remover, h.last.append (by simp [MultiLast]), fun hg => ?_⟩
        have hg : .libcurl .globalCleanup ∈ t.log ++ [Event.libcurl (.easyInit t.objs.next)] := hg
        exact h.global (by simpa using hg)
      refine ⟨hinit.emptied, hinit.destructed, hinit.remover, ?_, fun hg => ?_⟩
      · have hlast : Each MultiLast ((t.log ++ [Event.libcurl (.easyInit t.objs.next)])
            ++ [Event.libcurl (.easyCleanup t.objs.next)]) := hinit.last.snoc fun _ hmem =>
          no_multi hc hm (by simpa [Transfers.emit, Transfers.alloc] using hmem)
        rwa [List.append_assoc] at hlast
      · have hg : .libcurl .globalCleanup ∈ t.log ++ [Event.libcurl (.easyInit t.objs.next),
          .libcurl (.easyCleanup t.objs.next)] := hg
        exact h.global (by simpa using hg)
  | destroy n o hopen => exact h.destroy hc (open_multi hr (hN _ hopen)) n o
  | reset => exact h.same (fun _ => id) rfl rfl rfl (by simp [Event.isLife])
  | refuse => exact h.same (fun _ => id) rfl rfl (List.append_nil _).symm (by simp)
  | add => exact h.same (fun _ => id) rfl rfl rfl (by simp [Event.isLife])
  | added => exact h.same (fun _ => id) rfl rfl rfl (by simp [Event.isLife])
  | addFailed => exact h.same (fun _ => id) rfl rfl rfl (by simp [Event.isLife])
  | complete o p res rest =>
      have hdet : Closing (t.detach o) := h.same (fun _ => id) rfl rfl rfl (by simp [Event.isLife])
      exact hdet.same (fun _ => id) rfl rfl rfl (by simp [Event.isLife])
  | read e p res rest =>
      unfold Transfers.read
      split <;> exact h.same (fun _ => id) rfl rfl (List.append_nil _).symm (by simp)
  | post => exact h.same (fun _ => id) rfl rfl (List.append_nil _).symm (by simp)

/-- The phase moves on. -/
theorem rephase (h : Closing t) {ph : Phase} {d : Bool}
    (hdes : ∀ todo, ph = .clearing .destructor todo → ∀ n, t.handles.lookup n = none)
    (hrem : ∀ actor todo, ph = .removing actor todo → actor ≠ .destructor)
    (hafter : t.curlMulti = false → t.phase.IsAfter → ph.IsAfter) :
    Closing { t with phase := ph, isDetached := d } where
  emptied := h.emptied
  destructed := hdes
  remover := hrem
  last := h.last
  global := fun hg => ⟨(h.global hg).1, hafter (h.global hg).1 (h.global hg).2⟩

theorem move (h : Closing t) (hr : Records t) (hc : Cleaned t) (hmove : Move t t') : Closing t' := by
  have hflags := hr.flags
  unfold Flags at hflags
  cases hmove with
  | drain hph =>
      refine h.rephase (by simp) (by simp) fun _ hafter => ?_
      rw [hph] at hafter
      exact hafter.elim
  | removeAll order hph =>
      refine h.rephase (by simp) (fun a l hl => ?_) fun _ hafter => ?_
      · rw [← (Phase.removing.inj hl).1]
        simp
      · rw [hph] at hafter
        exact hafter.elim
  | exit => exact h.rephase (by simp) (by simp) fun _ _ => trivial
  | guard order hph hd =>
      refine h.rephase (by simp) (fun a l hl => ?_) fun hm _ => ?_
      · rw [← (Phase.removing.inj hl).1]
        simp
      · rw [hph] at hflags
        rw [hd, hm] at hflags
        simp at hflags
  | visit actor n todo hph =>
      have hvisit : Closing (t.visit n) := by
        unfold Transfers.visit
        split
        · exact h
        · split
          · exact h.same (fun _ => id) rfl rfl rfl (by simp [Event.isLife])
          · exact h
      refine hvisit.rephase (by simp) (fun a l hl => ?_) fun hm _ => ?_
      · rw [← (Phase.removing.inj hl).1]
        exact h.remover hph
      · rw [hph] at hflags
        rw [(Records.visit_frame n).2.2.2.2, hflags.2] at hm
        simp at hm
  | clear actor order hph ho =>
      rw [hph] at hflags
      refine h.rephase (fun l hl => ?_) (by simp) fun hm _ => ?_
      · exact absurd (Phase.clearing.inj hl).1 (h.remover hph)
      · rw [hflags.2] at hm
        simp at hm
  | drop actor n todo hph =>
      rw [hph] at hflags
      have hafter :
          (Phase.clearing actor (n :: todo)).IsAfter → (Phase.clearing actor todo).IsAfter := by
        cases actor <;> exact id
      unfold Transfers.drop
      split
      · refine h.rephase (fun l hl => ?_) (by simp) fun _ ha => hafter (hph ▸ ha)
        rw [(Phase.clearing.inj hl).1] at hph
        exact h.destructed hph
      · rename_i o hn
        have hne : actor ≠ .destructor := by
          rintro rfl
          rw [h.destructed hph n] at hn
          simp at hn
        have hm : t.curlMulti = true := hflags.2.resolve_left hne
        refine (h.destroy hc hm n o).rephase (fun l hl => ?_) (by simp) fun _ ha => hafter (hph ▸ ha)
        exact absurd (Phase.clearing.inj hl).1 hne
  | destruct order ho hph =>
      refine h.rephase (fun _ _ => ?_) (by simp) fun _ _ => trivial
      rcases hph with ⟨hph, hd⟩ | hph
      · rw [hph] at hflags
        exact h.emptied (by simpa [hd] using hflags)
      · intro n
        rw [Option.eq_none_iff_forall_ne_some]
        exact fun o hn => absurd (hr.clearing hph hn) List.not_mem_nil
  | cleared actor hph =>
      refine h.rephase (by simp) (by simp) fun _ ha => ?_
      rw [hph] at ha
      cases actor <;> exact ha
  | shutdown actor hph hm =>
      refine ⟨fun _ => hr.emptied (by rw [hph]; trivial), ?_, ?_, h.last.snoc fun _ => no_multi hc hm,
        fun hg => ?_⟩
      · cases actor <;> simp [Actor.afterShutdown]
      · cases actor <;> simp [Actor.afterShutdown]
      · have hg : .libcurl .globalCleanup ∈ t.log ++ [Event.libcurl .multiCleanup] := hg
        rw [(h.global (by simpa using hg)).1] at hm
        simp at hm
  | shutdownAgain actor hph hm =>
      refine h.rephase ?_ ?_ fun _ ha => ?_
      · cases actor <;> simp [Actor.afterShutdown]
      · cases actor <;> simp [Actor.afterShutdown]
      · rw [hph] at ha
        cases actor <;> first | exact ha.elim | trivial
  | globalCleanup hph =>
      rw [hph] at hflags
      exact ⟨h.emptied, by simp, by simp, h.last.append (by simp [MultiLast]),
        fun _ => ⟨hflags.2, trivial⟩⟩

theorem reachable (hN : ∀ ph, N ph → ph.IsOpen) (h : Reachable N t) : Closing t := by
  have hlive : ∀ ph, N ph → ph.IsLive := fun ph hph => (hN ph hph).isLive
  induction h with
  | refl => exact .boot
  | tail hreach hstep ih =>
      have hr := Records.reachable hlive hreach
      have hc := Cleaned.reachable hlive hreach
      rcases hstep with hop | hmove
      · exact ih.op hN hr hc hop
      · exact ih.move hr hc hmove

end Closing

end Transfers

namespace Transfers

variable {N : Phase → Prop} {t t' : Transfers}

theorem Op.global (hop : Op N t t') (hg : .libcurl .globalCleanup ∈ t'.log) :
    .libcurl .globalCleanup ∈ t.log := by
  cases hop with
  | read e p res rest =>
      unfold Transfers.read at hg
      split at hg <;> exact hg
  | create => simpa [Transfers.create, Transfers.alloc, Transfers.emit] using hg
  | createLost => simpa [Transfers.alloc, Transfers.emit] using hg
  | destroy => simpa [Transfers.destroy, Transfers.emit] using hg
  | reset => simpa [Transfers.emit] using hg
  | refuse => exact hg
  | add => simpa [Transfers.add, Transfers.setObj, Transfers.emit] using hg
  | added => simpa [Transfers.added, Transfers.emit] using hg
  | addFailed => simpa [Transfers.addFailed, Transfers.emit] using hg
  | complete => simpa [Transfers.complete, Transfers.detach, Transfers.setObj, Transfers.emit] using hg
  | post => exact hg

/-- `curl_global_cleanup` is called in its own phase. -/
theorem Move.global (hmove : Move t t') (hg : .libcurl .globalCleanup ∈ t'.log) :
    .libcurl .globalCleanup ∈ t.log ∨ t.phase = .globalCleanup := by
  cases hmove with
  | visit actor n todo =>
      refine Or.inl ?_
      have hg : .libcurl .globalCleanup ∈ (t.visit n).log := hg
      unfold Transfers.visit at hg
      split at hg
      · exact hg
      · split at hg
        · simpa [Transfers.detach, Transfers.emit] using hg
        · exact hg
  | drop actor n todo =>
      refine Or.inl ?_
      have hg : .libcurl .globalCleanup ∈ (t.drop n).log := hg
      unfold Transfers.drop at hg
      split at hg
      · exact hg
      · simpa [Transfers.destroy, Transfers.emit] using hg
  | shutdown => exact Or.inl (by simpa [Transfers.emit] using hg)
  | globalCleanup hph => exact Or.inr hph
  | _ => exact Or.inl hg

end Transfers

/-! ### The controller -/

namespace AmxCurlController

variable {m m' : AmxCurlController} {tr : List Action}

theorem Ops.global {N : Phase → Prop} {t t' : Transfers} (hops : Ops N t t')
    (hg : .libcurl .globalCleanup ∈ t'.log) : .libcurl .globalCleanup ∈ t.log := by
  induction hops with
  | refl => exact hg
  | tail _ hop ih => exact ih (hop.global hg)

/-- No native runs once the flag is set. -/
def NativesBeforeDetach (m : AmxCurlController) (a : Action) : Prop :=
  a.isNative = true → m.isDetached = false

instance (m : AmxCurlController) (a : Action) : Decidable (m.NativesBeforeDetach a) :=
  inferInstanceAs (Decidable (_ → _))

theorem not_open (hr : Records m.transfers) (hd : m.isDetached = true) : ¬m.phase.IsOpen := by
  intro ho
  have hflags := hr.flags
  unfold Transfers.Flags at hflags
  rw [show m.transfers.phase = m.phase from rfl] at hflags
  rcases ho with ho | ho <;> rw [ho] at hflags <;> exact absurd (hflags.1.symm.trans hd) (by simp)

/-- What can happen with the flag set and nothing on the stack, but for natives. -/
inductive Late (m m' : AmxCurlController) (a : Action) : Prop
  /-- A plugin comes or goes, a DONE is posted, the process exits. -/
  | quiet (hs : m'.stack = m.stack) (hlog : m'.log = m.log)
  | callback (o : ObjId) (k : Callback) (ha : a = .callback o k) (hlib : m.InLibcurl)
      (he : m.easies.lookup (m.obj o).curl = some o) (hm : m' = m.callback o k)
  | teardown (order : List AmxCurlHandle) (ha : a = .teardown order)
      (hm : m.teardown order = some m')

theorem next_late {a : Action} (hr : Records m.transfers) (hstack : m.stack = [])
    (hd : m.isDetached = true) (ha : a.isNative = false) (hn : m.next a = some m') :
    Late m m' a := by
  have hopen := not_open hr hd
  have hempty : ∀ {f : Frame} {rest : List Frame}, m.stack ≠ f :: rest := by
    intro f rest hs
    rw [hstack] at hs
    simp at hs
  cases next_fires hn with
  | load a hfree => exact .quiet rfl rfl
  | unload a q hq hs => exact .quiet rfl rfl
  | easyInit => simp [Action.isNative] at ha
  | setCallback => simp [Action.isNative] at ha
  | setOption => simp [Action.isNative] at ha
  | easyPerform => simp [Action.isNative] at ha
  | easyCleanup => simp [Action.isNative] at ha
  | easyReset => simp [Action.isNative] at ha
  | addReturn ok o p rest hs hok => exact absurd hs hempty
  | removeReturn f o p res rest hs hf => exact absurd hs hempty
  | postDone e p res hatt hp => exact .quiet rfl rfl
  | callback o k hlib he => exact .callback o k rfl hlib he rfl
  | socketActionReturn rest hs => exact absurd hs hempty
  | readMessage rest hs hm => exact absurd hs hempty
  | checkMultiInfoReturn rest hs hm => exact absurd hs hempty
  | completionReturn result b q f data rest hs => exact absurd hs hempty
  | dataCallbackReturn result o c q expected rest hs => exact absurd hs hempty
  | poll hs hm hph => exact absurd hph hopen
  | sweep order hs hph ho => exact absurd (Or.inl hph) hopen
  | onAmxxDetach hs hph => exact absurd (Or.inl hph) hopen
  | drained timedOut order hs hph hc ho => exact absurd (Or.inr hph) hopen
  | exit hs hph => exact .quiet rfl rfl
  | teardown order m' hs hdown =>
      simp only [next] at hn
      rw [if_pos hstack] at hn
      exact .teardown order rfl hn

/-- Without natives nothing is left on the stack once the flag is set. -/
theorem run_stack (h : machine.Run NativesBeforeDetach tr m) : m.isDetached = true → m.stack = [] := by
  induction h with
  | init => exact fun _ => rfl
  | @snoc tr m m' a hrun hc hn ih =>
      intro hd
      obtain ⟨-, hs⟩ := run_reachable hrun
      have hr := run_records hrun
      obtain ⟨hstep, -⟩ := next_refines (N := Phase.IsLive) hr.flags hs (fun _ hp => hp.isLive hs)
        (Or.inl rfl) hn
      rcases hstep with hops | ⟨-, hstack, -⟩
      · have hd₀ : m.isDetached = true := hops.isDetached.symm.trans hd
        have ha : a.isNative = false := by
          rw [← Bool.not_eq_true]
          intro hnat
          rw [hc hnat] at hd₀
          simp at hd₀
        have hstack := ih hd₀
        cases next_late hr hstack hd₀ ha hn with
        | quiet hs => exact hs.trans hstack
        | callback o k ha hlib he hm =>
            rw [hm, callback_stack hd₀]
            exact hstack
        | teardown order ha hm => exact (Offstage.teardown (teardown_tearsDown hm)).stack.trans hstack
      · exact hstack

/-- Before `OnAmxxDetach` is through, natives run in the open phases only. -/
theorem run_closing (h : machine.Run NativesBeforeDetach tr m) :
    Transfers.Closing m.transfers ∧ Transfers.Cleaned m.transfers := by
  have hreach := (run_refines (N := Phase.IsOpen) (fun _ => Phase.IsOpen.isLive) (Or.inl rfl)
    (fun m a hc ha hp hs hr => ?_) h).1
  · exact ⟨.reachable (fun _ => id) hreach, .reachable (fun _ => Phase.IsOpen.isLive) hreach⟩
  · rcases hp.isLive hs with ho | ho | ho
    · exact Or.inl ho
    · exact Or.inr ho
    · have hflags := hr.flags
      unfold Transfers.Flags at hflags
      rw [show m.transfers.phase = m.phase from rfl, ho] at hflags
      exact absurd (hflags.1.symm.trans (hc ha)) (by simp)

/-- After `curl_global_cleanup` there is nothing left to do, and nothing is logged. -/
theorem teardown_after {order : List AmxCurlHandle} (hempty : ∀ n, m.amxCurl.lookup n = none)
    (hm : m.curlMulti = false) (hafter : m.phase.IsAfter)
    (hn : m.teardown order = some m') : m'.log = m.log := by
  have hdrop : ∀ n, m.dropEntry n = m := by
    intro n
    unfold dropEntry
    rw [hempty n]
  have hshut : m.shutdown = m := by
    unfold shutdown
    rw [hm]
    rfl
  have hbefore : ∀ {ph}, m.phase = ph → ¬ph.IsAfter → m'.log = m.log :=
    fun hph hnot => absurd (hph ▸ hafter) hnot
  cases teardown_tearsDown hn with
  | visit actor n todo hph => exact hbefore hph id
  | clear actor hph ho => exact hbefore hph id
  | drop actor n todo hph => rw [hdrop]
  | shutdown hph => rw [hshut]
  | shutdownLast actor hph hne => rw [hshut]
  | globalCleanup hph => exact hbefore hph id
  | _ => rfl

theorem after_log {a : Action} (hr : Records m.transfers) (hc : Transfers.Closing m.transfers)
    (hstack : m.stack = []) (hd : m.isDetached = true) (hm : m.curlMulti = false)
    (hafter : m.phase.IsAfter) (ha : a.isNative = false) (hn : m.next a = some m') :
    m'.log = m.log := by
  have hempty : ∀ n, m.amxCurl.lookup n = none := hc.emptied hm
  cases next_late hr hstack hd ha hn with
  | quiet _ hlog => exact hlog
  | callback o k ha hlib he hm =>
      obtain ⟨⟨n, hn⟩, -⟩ := hr.easy.mp he
      rw [show m.transfers.handles = m.amxCurl from rfl, hempty n] at hn
      simp at hn
  | teardown order ha hteardown => exact teardown_after hempty hm hafter hteardown

/-- In the phases after `curl_global_cleanup` the flag is set. -/
theorem after_detached (hr : Records m.transfers) (hm : m.curlMulti = false)
    (hafter : m.phase.IsAfter) : m.isDetached = true := by
  have hflags := hr.flags
  unfold Transfers.Flags at hflags
  rw [show m.transfers.phase = m.phase from rfl] at hflags
  split at hflags
  · rename_i heq
    rw [heq] at hafter
    exact hafter.elim
  · rename_i heq
    rw [heq] at hafter
    exact hafter.elim
  · exact hflags.1
  · exact hflags.1
  · exact hflags.1
  · exact hflags.1
  · exact hflags.1
  · exact hflags.1
  · have hflags : m.isDetached = !m.curlMulti := hflags
    rw [hflags, hm]
    rfl

theorem teardown_global {order : List AmxCurlHandle} (hph : m.phase = .globalCleanup)
    (hn : m.teardown order = some m') : m'.log = m.log ++ [Event.libcurl .globalCleanup] := by
  unfold teardown at hn
  rw [hph] at hn
  obtain rfl := Option.some.inj hn
  rfl

/-- The one call of `curl_global_cleanup` is the last thing in the log. -/
theorem run_global (h : machine.Run NativesBeforeDetach tr m) :
    .libcurl .globalCleanup ∈ m.log →
      ∃ pre, m.log = pre ++ [.libcurl .globalCleanup] ∧ .libcurl .globalCleanup ∉ pre := by
  induction h with
  | init =>
      intro hg
      simp [machine, boot] at hg
  | @snoc tr m m' a hrun hc hn ih =>
      intro hg
      obtain ⟨-, hs⟩ := run_reachable hrun
      have hr := run_records hrun
      have hnative : m.isDetached = true → a.isNative = false := by
        intro hd
        rw [← Bool.not_eq_true]
        intro hnat
        rw [hc hnat] at hd
        simp at hd
      by_cases hold : .libcurl .globalCleanup ∈ m.log
      · obtain ⟨hclosing, -⟩ := run_closing hrun
        obtain ⟨hm, hafter⟩ := hclosing.global (List.mem_filter.mpr ⟨hold, rfl⟩)
        have hd := after_detached hr hm hafter
        rw [after_log hr hclosing (run_stack hrun hd) hd hm hafter (hnative hd) hn]
        exact ih hold
      · -- this is the step that calls it
        have hph : m.phase = .globalCleanup := by
          have hnot : .libcurl .globalCleanup ∉ m.transfers.log :=
            fun hin => hold (List.mem_filter.mp hin).1
          have hin : .libcurl .globalCleanup ∈ m'.transfers.log := List.mem_filter.mpr ⟨hg, rfl⟩
          obtain ⟨hstep, -⟩ := next_refines (N := Phase.IsLive) hr.flags hs (fun _ hp => hp.isLive hs)
            (Or.inl rfl) hn
          rcases hstep with hops | ⟨hmove, -⟩
          · exact absurd (hops.global hin) hnot
          · exact (hmove.global hin).resolve_left hnot
        have hd : m.isDetached = true := by
          have hflags := hr.flags
          unfold Transfers.Flags at hflags
          rw [show m.transfers.phase = m.phase from rfl, hph] at hflags
          exact hflags.1
        have hstack := run_stack hrun hd
        cases next_late hr hstack hd (hnative hd) hn with
        | quiet _ hlog => exact absurd (hlog ▸ hg) hold
        | callback o k ha hlib =>
            unfold InLibcurl at hlib
            rw [hstack, hph] at hlib
            exact hlib.elim
        | teardown order ha hteardown => exact ⟨m.log, teardown_global hph hteardown, hold⟩

/-- Once libcurl is down no function of it is called. -/
def GlobalLast (pre : List Event) (e : Event) : Prop :=
  (∃ c, e = .libcurl c) → .libcurl .globalCleanup ∉ pre

/--
**libcurl is taken down in order**, whichever of the three actors do it.  An easy handle
is cleaned up only once it is off the multi, and at most once; after the multi no easy
handle is, and after `curl_global_cleanup` nothing is called.  At the end every easy
handle there ever was has been cleaned up, and the multi.
-/
theorem teardown_legal (h : machine.Run NativesBeforeDetach tr m) :
    Each OnDetached m.log ∧ Each MultiLast m.log ∧ Each GlobalLast m.log ∧
    (∀ o, m.log.count (.libcurl (.easyCleanup o)) ≤ 1) ∧
    m.log.count (.libcurl .multiCleanup) ≤ 1 ∧
    (m.phase = .gone →
      (∀ o, .libcurl (.easyInit o) ∈ m.log → m.log.count (.libcurl (.easyCleanup o)) = 1) ∧
      m.log.count (.libcurl .multiCleanup) = 1) := by
  obtain ⟨hclosing, hcleaned⟩ := run_closing h
  have hr := run_records h
  have hcount : ∀ {e : Event}, e.isMajor = true → m.transfers.log.count e = m.log.count e :=
    fun he => List.count_filter he
  refine ⟨(records_agree h.free).2, ?_, ?_, fun o => ?_, ?_, fun hph => ⟨fun o ho => ?_, ?_⟩⟩
  · refine hclosing.last.of_filter (fun pre e he hkind => ?_) fun pre e hp hkind hin => ?_
    · rcases hkind with rfl | ⟨o, rfl⟩ <;> simp [Event.isMajor] at he
    · exact hp hkind (List.mem_filter.mpr ⟨hin, rfl⟩)
  · have hnone : ∀ {l : List Event}, .libcurl .globalCleanup ∉ l → Each GlobalLast l := by
      rintro l hl pre e post rfl - hin
      exact hl (List.mem_append_left _ hin)
    by_cases hg : .libcurl .globalCleanup ∈ m.log
    · obtain ⟨pre, hlog, hnot⟩ := run_global h hg
      rw [hlog]
      exact (hnone hnot).snoc fun _ => hnot
    · exact hnone hg
  · rw [← hcount rfl]
    exact hcleaned.once o
  · rw [← hcount rfl, hcleaned.multi]
    split <;> simp
  · rw [← hcount rfl]
    refine hcleaned.dead ?_ ?_
    · by_contra hge
      exact (hcleaned.fresh (Nat.not_lt.mp hge)).1 (List.mem_filter.mpr ⟨ho, rfl⟩)
    · rintro ⟨n, hn⟩
      rw [hr.emptied (by rw [show m.transfers.phase = m.phase from rfl, hph]; trivial) n] at hn
      simp at hn
  · have hflags := hr.flags
    unfold Transfers.Flags at hflags
    rw [show m.transfers.phase = m.phase from rfl, hph] at hflags
    rw [← hcount rfl, hcleaned.multi, if_neg (by rw [hflags.2]; simp)]

/-- A detach whose drain times out, with a handle in flight, deferred, and an idle one. -/
def timedOut : AmxCurlController :=
  (machine.exec NativesBeforeDetach boot [.load 7, .easyInit 7 (some 100), .easyInit 7 (some 101),
    .easyPerform 1 true 3 0, .addReturn true, .easyCleanup 1, .onAmxxDetach, .drained true [1, 2],
    .teardown [], .teardown [], .teardown [2, 1], .teardown [], .teardown [], .teardown [],
    .teardown [], .teardown [], .exit, .teardown [], .teardown [], .teardown []]).get (by decide)

theorem teardown_legal_timedOut : Each OnDetached timedOut.log ∧
    timedOut.log.count (.libcurl (.easyCleanup 0)) = 1 ∧
    timedOut.log.count (.libcurl .multiCleanup) = 1 := by
  obtain ⟨hdetached, -, -, -, -, hgone⟩ :=
    teardown_legal (Machine.run_of_exec (Option.some_get _).symm : machine.Run _ _ timedOut)
  obtain ⟨hcleaned, hmulti⟩ := hgone (by decide)
  exact ⟨hdetached, hcleaned 0 (by decide), hmulti⟩

end AmxCurlController

end AmxxCurl
