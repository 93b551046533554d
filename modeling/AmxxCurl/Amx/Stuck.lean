/-
Objects whose perform was left by an exception.

`Perform` sets `is_transfer_in_progress_` before it calls `AddCurl`, so an exception out of
there leaves the object in progress for good: libcurl has never heard of the transfer, and
nothing that asks for the flag touches the object again.  `spare` reads the transfers as if
these performs had not begun, and what is known of the transfers is known of that reading.
-/
import AmxxCurl.Amx.InFlight

namespace AmxxCurl

open AmxCurlController

namespace Transfers

variable {N : Phase → Prop} {t t' : Transfers} {Z : Finset ObjId} {o : ObjId}

/-- The transfers, as they were if the performs of the objects `Z` had not begun. -/
def spare (Z : Finset ObjId) (t : Transfers) : Transfers :=
  { t with
    objs := ⟨t.objs.next, fun o => if o ∈ Z then { t.obj o with inProgress := false } else t.obj o⟩ }

theorem spare_curl : ((t.spare Z).obj o).curl = (t.obj o).curl := by
  show (if o ∈ Z then { t.obj o with inProgress := false } else t.obj o).curl = _
  split <;> rfl

theorem spare_obj (ho : o ∉ Z) : (t.spare Z).obj o = t.obj o := if_neg ho

theorem spare_idle (ho : o ∈ Z) : ((t.spare Z).obj o).inProgress = false := by
  show (if o ∈ Z then { t.obj o with inProgress := false } else t.obj o).inProgress = false
  rw [if_pos ho]

theorem spare_objs {c : Heap Transfer} {c' : Heap Transfer} (hnext : c'.next = c.next)
    (hcell : ∀ o, c'.cell o =
      if o ∈ Z then { c.cell o with inProgress := false } else c.cell o) :
    ({ t with objs := c } : Transfers).spare Z = { t with objs := c' } := by
  have hsame : (⟨c.next, fun o => if o ∈ Z then { c.cell o with inProgress := false } else c.cell o⟩ :
      Heap Transfer) = c' := by
    obtain ⟨next, cell⟩ := c'
    refine congr (congrArg Heap.mk hnext.symm) ?_
    funext o
    exact (hcell o).symm
  rw [← hsame]
  rfl

theorem spare_setObj {f : Transfer → Transfer} (ho : o ∉ Z) :
    (t.setObj o f).spare Z = (t.spare Z).setObj o f := by
  refine spare_objs rfl fun o' => ?_
  rw [Heap.modify_cell, Heap.modify_cell]
  by_cases ho' : o' = o
  · rw [if_pos ho', if_pos ho', if_neg (ho'.symm ▸ ho)]
    exact congrArg f (spare_obj ho)
  · rw [if_neg ho', if_neg ho']
    rfl

theorem spare_alloc {e : CurlPtr} (hnew : t.objs.next ∉ Z) :
    (t.alloc e).spare Z = (t.spare Z).alloc e := by
  refine spare_objs rfl fun o => ?_
  rw [Heap.alloc_cell, Heap.alloc_cell]
  show (if o = t.objs.next then _ else (t.spare Z).obj o) = _
  by_cases ho : o = t.objs.next
  · rw [if_pos ho, if_pos ho, if_neg (ho.symm ▸ hnew)]
  · rw [if_neg ho, if_neg ho]
    rfl

theorem spare_destroy (n : AmxCurlHandle) (o : ObjId) :
    (t.destroy n o).spare Z = (t.spare Z).destroy n o := by
  unfold destroy
  rw [spare_curl]
  rfl

theorem spare_detach (o : ObjId) : (t.detach o).spare Z = (t.spare Z).detach o := by
  unfold detach
  rw [spare_curl]
  rfl

/-- The objects `Z` are stuck, and all is in order but for them. -/
structure Stuck (Z : Finset ObjId) (t : Transfers) : Prop where
  records : Records (t.spare Z)
  inProgress : ∀ o ∈ Z, (t.obj o).inProgress = true
  lt : ∀ o ∈ Z, o < t.objs.next

namespace Stuck

theorem boot : Stuck ∅ boot where
  records := by
    have hnone : Transfers.boot.spare ∅ = Transfers.boot :=
      spare_objs (t := Transfers.boot) (c := Transfers.boot.objs) rfl fun o =>
        (if_neg (Finset.notMem_empty o)).symm
    rw [hnone]
    exact .boot
  inProgress := by simp
  lt := by simp

theorem not_mem_idle (h : Stuck Z t) (hidle : (t.obj o).inProgress = false) : o ∉ Z := by
  intro ho
  rw [h.inProgress o ho] at hidle
  simp at hidle

theorem not_mem_task (h : Stuck Z t) {k : Task} {rest : List (ObjId × Task)}
    (hs : t.tasks = (o, k) :: rest) : o ∉ Z := by
  intro ho
  have hbusy := (h.records.busy (o := o) (k := k) (by
    show _ ∈ t.tasks
    rw [hs]
    exact List.mem_cons_self ..)).2
  rw [spare_idle ho] at hbusy
  simp at hbusy

/-- What a change does to the objects that are stuck: nothing. -/
theorem of_records (h : Stuck Z t) (hr : Records (t'.spare Z)) (hle : t.objs.next ≤ t'.objs.next)
    (hobj : ∀ o ∈ Z, t'.obj o = t.obj o) : Stuck Z t' where
  records := hr
  inProgress := by
    intro o ho
    rw [hobj o ho]
    exact h.inProgress o ho
  lt := fun o ho => Nat.lt_of_lt_of_le (h.lt o ho) hle

theorem of_modify {f : Transfer → Transfer} (h : Stuck Z t) (ho : o ∉ Z)
    (hr : Records (t'.spare Z)) (hobjs : t'.objs = t.objs.modify o f) : Stuck Z t' := by
  refine h.of_records hr (by rw [hobjs]; exact Nat.le_refl _) fun o' ho' => ?_
  have hne : o' ≠ o := fun heq => ho (heq ▸ ho')
  rw [obj, hobjs, Heap.modify_cell_ne _ _ hne]

theorem of_alloc {x : Transfer} (h : Stuck Z t) (hr : Records (t'.spare Z))
    (hobjs : t'.objs = t.objs.alloc x) : Stuck Z t' := by
  refine h.of_records hr (by rw [hobjs]; exact Nat.le_succ _) fun o' ho' => ?_
  rw [obj, hobjs, Heap.alloc_cell_lt _ _ (h.lt o' ho')]

theorem of_same (h : Stuck Z t) (hr : Records (t'.spare Z)) (hobjs : t'.objs = t.objs) :
    Stuck Z t' := by
  refine h.of_records hr (by rw [hobjs]) fun o' _ => ?_
  rw [obj, hobjs]

/-- An exception leaves one more object stuck. -/
theorem stick (h : Stuck Z t) (hidle : (t.obj o).inProgress = false) (hlt : o < t.objs.next)
    (args : PerformArgs) : Stuck (insert o Z) (t.setObj o (·.start args)) := by
  have hnew := h.not_mem_idle hidle
  constructor
  · have hsame : (t.setObj o (·.start args)).spare (insert o Z) =
        (t.spare Z).setObj o fun x => { x with args := args } := by
      refine spare_objs rfl fun o' => ?_
      rw [Heap.modify_cell, Heap.modify_cell]
      by_cases ho : o' = o
      · rw [if_pos ho, if_pos ho, if_pos (ho.symm ▸ Finset.mem_insert_self ..)]
        show { (t.spare Z).obj o with args := args } = _
        rw [spare_obj hnew]
        show (⟨_, _, (t.obj o).inProgress⟩ : Transfer) = _
        rw [hidle]
        rfl
      · rw [if_neg ho, if_neg ho]
        show (if o' ∈ Z then _ else _) = _
        refine if_congr ?_ rfl rfl
        rw [Finset.mem_insert, or_iff_right ho]
    rw [hsame]
    exact h.records.setObj fun _ => ⟨rfl, rfl⟩
  · intro o' ho'
    unfold setObj obj
    rw [Heap.modify_cell]
    by_cases ho : o' = o
    · rw [if_pos ho]
      rfl
    · rw [if_neg ho]
      exact h.inProgress o' ((Finset.mem_insert.mp ho').resolve_left ho)
  · intro o' ho'
    rcases Finset.mem_insert.mp ho' with rfl | ho'
    · exact hlt
    · exact h.lt o' ho'

/-- To take an easy handle off lists it is not on changes nothing. -/
theorem detach_idle {s : Transfers} (hr : Records s) (hlive : s.IsLive o)
    (hidle : (s.obj o).inProgress = false) :
    ({ s with curlMap := s.curlMap.erase (s.obj o).curl } : Transfers).detach o =
      s.emit [.libcurl (.removeHandle o)] := by
  obtain ⟨hmap, hatt, -⟩ := hr.idle hlive hidle
  have hmessages : s.messages.filter (fun msg => msg.1 != (s.obj o).curl) = s.messages := by
    refine List.filter_eq_self.mpr fun msg hmsg => ?_
    obtain ⟨e, p, res⟩ := msg
    have hqueued := hr.queued hmsg
    rw [bne_iff_ne]
    intro he
    have he : e = (s.obj o).curl := he
    rw [he, hatt] at hqueued
    simp at hqueued
  unfold detach emit
  dsimp only
  rw [Table.erase_none hmap, Table.erase_none hatt, hmessages]

/-- Every change keeps all in order but for what is stuck. -/
theorem op (hN : ∀ ph, N ph → ph.IsLive) (h : Stuck Z t) (hop : Op N t t') : Stuck Z t' := by
  have hr := h.records
  have hnew : t.objs.next ∉ Z := fun hmem => Nat.lt_irrefl _ (h.lt _ hmem)
  cases hop with
  | create n e hph he hh =>
      have hop := hr.op hN (.create n e hph he hh)
      unfold create at hop
      rw [← spare_alloc hnew] at hop
      exact h.of_alloc hop rfl
  | createLost e hph =>
      have hop := hr.op hN (.createLost e hph)
      rw [← spare_alloc hnew] at hop
      exact h.of_alloc hop rfl
  | destroy n o hph hh hidle =>
      have ho := h.not_mem_idle hidle
      refine h.of_same ?_ rfl
      rw [spare_destroy]
      exact hr.op hN (.destroy n o hph hh (by rw [spare_obj ho]; exact hidle))
  | reset => exact h.of_same hr.emit rfl
  | refuse n o fun_ hph hh hidle =>
      have ho := h.not_mem_idle hidle
      refine h.of_modify (f := (·.refuse fun_)) ho ?_ rfl
      rw [spare_setObj ho]
      exact hr.setObj fun _ => ⟨rfl, rfl⟩
  | add n o args hph hh hidle =>
      have ho := h.not_mem_idle hidle
      refine h.of_modify (f := (·.start args)) ho ?_ rfl
      have hop := hr.op hN (.add n o args hph hh (by rw [spare_obj ho]; exact hidle))
      unfold add at hop ⊢
      rw [← spare_setObj ho, spare_curl] at hop
      exact hop
  | added o p rest hs hm hfree =>
      have hop := hr.op hN (.added o p rest hs hm (by rw [spare_curl]; exact hfree))
      unfold added at hop
      rw [spare_curl] at hop
      exact h.of_same hop rfl
  | addFailed o p rest hs =>
      have ho := h.not_mem_task hs
      refine h.of_modify (f := .settle) ho ?_ rfl
      have hop := hr.op hN (.addFailed o p rest hs)
      have hsame : (t.addFailed o rest).spare Z = (t.spare Z).addFailed o rest := by
        unfold addFailed
        rw [spare_curl]
        exact congrArg (fun x : Transfers => { x with
          curlMap := t.curlMap.erase (t.obj o).curl
          tasks := rest }.emit [.libcurl (.added o false)]) (spare_setObj ho)
      rw [hsame]
      exact hop
  | complete o p res rest hs =>
      have ho := h.not_mem_task hs
      refine h.of_modify ho ?_ rfl
      have hop := hr.op hN (.complete o p res rest hs)
      have hsame : (t.complete o p rest).spare Z = (t.spare Z).complete o p rest := by
        unfold complete
        rw [spare_obj ho, ← spare_detach]
        exact congrArg (fun x : Transfers => x.emit [.completed p (t.obj o).args])
          (spare_setObj (t := { t.detach o with tasks := rest }) ho)
      rw [hsame]
      exact hop
  | read e p res rest hlive hmsg =>
      have hop := hr.op hN (.read e p res rest hlive hmsg)
      have hsame : (t.read e p res rest).spare Z = (t.spare Z).read e p res rest ∧
          (t.read e p res rest).objs = t.objs := by
        unfold read
        have hmap : (t.spare Z).curlMap = t.curlMap := rfl
        rw [hmap]
        cases t.curlMap.lookup e with
        | none => exact ⟨rfl, rfl⟩
        | some o =>
            dsimp only
            rw [spare_curl]
            exact ⟨rfl, rfl⟩
      rw [← hsame.1] at hop
      exact h.of_same hop hsame.2
  | post e p res ha hp => exact h.of_same (hr.op hN (.post e p res ha hp)) rfl

theorem ops (hN : ∀ ph, N ph → ph.IsLive) (h : Stuck Z t)
    (hops : Relation.ReflTransGen (Op N) t t') : Stuck Z t' := by
  induction hops with
  | refl => exact h
  | tail _ hop ih => exact ih.op hN hop

/-- So does every step towards the end. -/
theorem move (h : Stuck Z t) (hmove : Move t t') : Stuck Z t' := by
  have hr := h.records
  cases hmove with
  | drain hph hs => exact h.of_same (hr.move (.drain hph hs)) rfl
  | removeAll order hph hs ho => exact h.of_same (hr.move (.removeAll order hph hs ho)) rfl
  | exit hph hs => exact h.of_same (hr.move (.exit hph hs)) rfl
  | guard order hph hd ho => exact h.of_same (hr.move (.guard order hph hd ho)) rfl
  | visit actor n todo hph =>
      have hmove := hr.move (.visit actor n todo hph)
      have hobjs : (t.visit n).objs = t.objs := (Records.visit_frame n).2.1
      refine h.of_same ?_ hobjs
      cases hn : t.handles.lookup n with
      | none =>
          unfold visit at hmove ⊢
          rw [show (t.spare Z).handles = t.handles from rfl, hn] at hmove
          rw [hn]
          exact hmove
      | some o =>
          by_cases ho : o ∈ Z
          -- an object that is stuck is taken off lists it is not on
          · have hlive : (t.spare Z).IsLive o := ⟨n, hn⟩
            have hdetach := detach_idle hr hlive (spare_idle ho)
            have hvisit : (t.spare Z).visit n = t.spare Z := by
              unfold visit
              rw [show (t.spare Z).handles = t.handles from rfl, hn]
              dsimp only
              rw [spare_idle ho, if_neg Bool.false_ne_true]
            have hsame : (t.visit n).spare Z = (t.spare Z).emit [.libcurl (.removeHandle o)] := by
              rw [← hdetach, spare_curl]
              unfold visit
              rw [hn]
              dsimp only
              rw [if_pos (h.inProgress o ho), spare_detach]
              rfl
            rw [hvisit] at hmove
            have hemit : Records (({ t.spare Z with phase := .removing actor todo } : Transfers).emit
                [.libcurl (.removeHandle o)]) := hmove.emit
            show Records { (t.visit n).spare Z with phase := .removing actor todo }
            rw [hsame]
            exact hemit
          · have hsame : (t.visit n).spare Z = (t.spare Z).visit n := by
              unfold visit
              rw [show (t.spare Z).handles = t.handles from rfl, hn]
              dsimp only
              rw [spare_obj ho]
              split
              · exact spare_detach o
              · rfl
            show Records { (t.visit n).spare Z with phase := .removing actor todo }
            rw [hsame]
            exact hmove
  | clear actor order hph ho => exact h.of_same (hr.move (.clear actor order hph ho)) rfl
  | drop actor n todo hph =>
      have hmove := hr.move (.drop actor n todo hph)
      have hsame : (t.drop n).spare Z = (t.spare Z).drop n ∧ (t.drop n).objs = t.objs := by
        unfold drop
        rw [show (t.spare Z).handles = t.handles from rfl]
        cases t.handles.lookup n with
        | none => exact ⟨rfl, rfl⟩
        | some o => exact ⟨spare_destroy n o, rfl⟩
      refine h.of_same ?_ hsame.2
      show Records { (t.drop n).spare Z with phase := .clearing actor todo }
      rw [hsame.1]
      exact hmove
  | destruct order ho hph => exact h.of_same (hr.move (.destruct order ho hph)) rfl
  | cleared actor hph ha => exact h.of_same (hr.move (.cleared actor hph ha)) rfl
  | shutdown actor hph hm => exact h.of_same (hr.move (.shutdown actor hph hm)) rfl
  | shutdownAgain actor hph hm => exact h.of_same (hr.move (.shutdownAgain actor hph hm)) rfl
  | globalCleanup hph => exact h.of_same (hr.move (.globalCleanup hph)) rfl

end Stuck

end Transfers

end AmxxCurl
