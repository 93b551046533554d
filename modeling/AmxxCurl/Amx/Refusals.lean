/-
A perform that starts nothing.

`AmxCurl::Perform` writes to the object, and `AddCurl` to `curl_map_`, before libcurl has
said whether it takes the handle; where it does not, `AddCurl` takes its entry back and
`Perform` the rest.  That this costs nobody else anything is not a matter of the two
functions: the entry is erased under a `CURL*`, and it is the records of what is in
flight that say no transfer runs under it.

Between the two halves libcurl may have called back, so what is compared is the state
each half finds with the one it leaves.
-/
import AmxxCurl.Amx.Completion
import AmxxCurl.Amx.Objects

namespace AmxxCurl

open AmxCurlController

namespace AmxCurlController

variable {m m' m'' : AmxCurlController} {tr : List Action} {o : ObjId} {h : AmxCurlHandle}

/-- The object is on none of the records of what is in flight, and holds no data. -/
structure Off (m : AmxCurlController) (o : ObjId) : Prop where
  inProgress : (m.obj o).isTransferInProgress = false
  data : (m.obj o).amxCallbackData = none ∧ (m.obj o).amxCallbackDataLen = 0
  unmapped : m.curlMap.lookup (m.obj o).curl = none
  detached : m.attached.lookup (m.obj o).curl = none

/-- Nothing has changed but how the object stands with a perform of its own. -/
structure Beside (m : AmxCurlController) (o : ObjId) (m' : AmxCurlController) : Prop where
  others : ∀ o', o' ≠ o → m'.obj o' = m.obj o'
  curl : (m'.obj o).curl = (m.obj o).curl
  body : (m'.obj o).responseBody = (m.obj o).responseBody
  curlMap : ∀ e, e ≠ (m.obj o).curl → m'.curlMap.lookup e = m.curlMap.lookup e
  easies : m'.easies = m.easies
  attached : m'.attached = m.attached

/-- What a perform that starts nothing must leave as it was. -/
structure Unharmed (m m' : AmxCurlController) : Prop where
  inProgress : ∀ o, (m'.obj o).isTransferInProgress = (m.obj o).isTransferInProgress
  data : ∀ o, (m'.obj o).amxCallbackData = (m.obj o).amxCallbackData ∧
    (m'.obj o).amxCallbackDataLen = (m.obj o).amxCallbackDataLen
  callback : ∀ o, (m.obj o).isTransferInProgress = true →
    (m'.obj o).amxCallbackFun = (m.obj o).amxCallbackFun ∧
      (m'.obj o).taskHandle = (m.obj o).taskHandle
  body : ∀ o, (m'.obj o).responseBody = (m.obj o).responseBody
  curlMap : ∀ e, m'.curlMap.lookup e = m.curlMap.lookup e
  attached : m'.attached = m.attached

/-- The transfers libcurl runs go on: each with its object, and with its completion. -/
def RunsOn (m m' : AmxCurlController) : Prop :=
  ∀ e o p, m.easies.lookup e = some o → m.attached.lookup e = some p →
    m'.attached.lookup e = some p ∧ m'.curlMap.lookup e = m.curlMap.lookup e ∧
      m'.obj o = m.obj o

namespace Beside

theorem trans (hb : m.Beside o m') (hb' : m'.Beside o m'') : m.Beside o m'' where
  others := by
    intro o' hne
    rw [hb'.others o' hne, hb.others o' hne]
  curl := hb'.curl.trans hb.curl
  body := hb'.body.trans hb.body
  curlMap := by
    intro e hne
    rw [hb'.curlMap e (hb.curl.symm ▸ hne), hb.curlMap e hne]
  easies := hb'.easies.trans hb.easies
  attached := hb'.attached.trans hb.attached

/-- An object that is off the records before and after has cost nobody anything. -/
theorem unharmed (hb : m.Beside o m') (hoff : m.Off o) (hoff' : m'.Off o) : m.Unharmed m' where
  inProgress := by
    intro o'
    by_cases ho : o' = o
    · rw [ho, hoff.inProgress, hoff'.inProgress]
    · rw [hb.others o' ho]
  data := by
    intro o'
    by_cases ho : o' = o
    · rw [ho, hoff.data.1, hoff.data.2, hoff'.data.1, hoff'.data.2]
      exact ⟨rfl, rfl⟩
    · rw [hb.others o' ho]
      exact ⟨rfl, rfl⟩
  callback := by
    intro o' hbusy
    by_cases ho : o' = o
    · rw [ho, hoff.inProgress] at hbusy
      exact absurd hbusy Bool.false_ne_true
    · rw [hb.others o' ho]
      exact ⟨rfl, rfl⟩
  body := by
    intro o'
    by_cases ho : o' = o
    · rw [ho, hb.body]
    · rw [hb.others o' ho]
  curlMap := by
    intro e
    by_cases he : e = (m.obj o).curl
    · rw [he, hoff.unmapped, ← hb.curl, hoff'.unmapped]
    · exact hb.curlMap e he
  attached := hb.attached

/-- No transfer runs under the easy handle of an object that is not attached. -/
theorem runsOn (hb : m.Beside o m') (hr : Transfers.Records m.transfers)
    (hdet : m.attached.lookup (m.obj o).curl = none) : m.RunsOn m' := by
  intro e o' p he ha
  have hcurl : (m.obj o').curl = e := (hr.easy.mp he).2
  have hne : e ≠ (m.obj o).curl := by
    intro heq
    rw [heq, hdet] at ha
    simp at ha
  have ho : o' ≠ o := by
    intro heq
    rw [heq] at hcurl
    exact hne hcurl.symm
  rw [hb.attached]
  exact ⟨ha, hb.curlMap e hne, hb.others o' ho⟩

end Beside

/-- Nothing at all has changed. -/
theorem Unharmed.of_same (hobj : ∀ o, m'.obj o = m.obj o) (hmap : m'.curlMap = m.curlMap)
    (hatt : m'.attached = m.attached) : m.Unharmed m' where
  inProgress := fun o => by rw [hobj]
  data := fun o => by rw [hobj]; exact ⟨rfl, rfl⟩
  callback := fun o _ => by rw [hobj]; exact ⟨rfl, rfl⟩
  body := fun o => by rw [hobj]
  curlMap := fun e => by rw [hmap]
  attached := hatt

/-! ### The two halves of a perform -/

/-- An idle handle is off all records. -/
theorem Idle.off {C : AmxCurlController → Action → Prop} (hidle : m.Idle h o)
    (hrun : machine.Run C tr m) : m.Off o := by
  obtain ⟨hmap, hatt, -⟩ := (run_records hrun).idle ⟨h, hidle.1⟩ hidle.2
  exact ⟨hidle.2, run_empty hrun o hidle.2, hmap, hatt⟩

theorem perform_curlMap {m₁ : AmxCurlController} {fun_ dataLen : Int} {data : Option DataId}
    (hobjs : m₁.objs = m.objs) : (m₁.perform o h true fun_ data dataLen).curlMap =
      if (m₁.curlMap.lookup (m.obj o).curl).isSome then m₁.curlMap
      else m₁.curlMap.insert (m.obj o).curl o := by
  have hcurl : ((m₁.perform o h true fun_ data dataLen).obj o).curl = (m.obj o).curl := by
    rw [obj_of_objs perform_objs, Heap.modify_cell_self, hobjs]
    rfl
  have hmap : (m₁.perform o h true fun_ data dataLen).curlMap =
      if (m₁.curlMap.lookup ((m₁.perform o h true fun_ data dataLen).obj o).curl).isSome
      then m₁.curlMap
      else m₁.curlMap.insert ((m₁.perform o h true fun_ data dataLen).obj o).curl o := rfl
  rw [hmap, hcurl]

/-- What `curl_easy_perform` does to the records, by whether it gets to libcurl. -/
theorem amxCurlEasyPerform_records (m : AmxCurlController) (h : AmxCurlHandle) (found : Bool)
    (fun_ dataLen : Int) :
    (m.amxCurlEasyPerform h found fun_ dataLen).easies = m.easies ∧
    (m.amxCurlEasyPerform h found fun_ dataLen).attached = m.attached ∧
    ((m.amxCurlEasyPerform h found fun_ dataLen).stack = m.stack ∧
        (m.amxCurlEasyPerform h found fun_ dataLen).curlMap = m.curlMap ∧
        (∀ o, m.Idle h o → found = false) ∨
      ∃ o, m.Idle h o ∧ found = true ∧
        (m.amxCurlEasyPerform h found fun_ dataLen).stack =
          .adding o m.performs.next :: m.stack ∧
        (m.amxCurlEasyPerform h found fun_ dataLen).curlMap =
          if (m.curlMap.lookup (m.obj o).curl).isSome then m.curlMap
          else m.curlMap.insert (m.obj o).curl o) := by
  have hperform : ∀ (m₁ : AmxCurlController) (data : Option DataId), m₁.amxCurl = m.amxCurl →
      m₁.objs = m.objs → m₁.stack = m.stack → m₁.curlMap = m.curlMap →
      m₁.performs = m.performs →
      (m₁.curlPerformTask h found fun_ data dataLen).easies = m₁.easies ∧
      (m₁.curlPerformTask h found fun_ data dataLen).attached = m₁.attached ∧
      ((m₁.curlPerformTask h found fun_ data dataLen).stack = m.stack ∧
          (m₁.curlPerformTask h found fun_ data dataLen).curlMap = m.curlMap ∧
          (∀ o, m.Idle h o → found = false) ∨
        ∃ o, m.Idle h o ∧ found = true ∧
          (m₁.curlPerformTask h found fun_ data dataLen).stack =
            .adding o m.performs.next :: m.stack ∧
          (m₁.curlPerformTask h found fun_ data dataLen).curlMap =
            if (m.curlMap.lookup (m.obj o).curl).isSome then m.curlMap
            else m.curlMap.insert (m.obj o).curl o) := by
    intro m₁ data hhandles hobjs hstack hmap hperforms
    unfold curlPerformTask
    rw [hhandles]
    cases hh : m.amxCurl.lookup h with
    | none => exact ⟨rfl, rfl, Or.inl ⟨hstack, hmap, fun o hidle => absurd hidle (unknown_not_idle hh)⟩⟩
    | some o =>
        dsimp only
        rw [obj_of_objs hobjs]
        by_cases hbusy : (m.obj o).isTransferInProgress = true
        · rw [if_pos hbusy]
          exact ⟨rfl, rfl, Or.inl ⟨hstack, hmap, fun o' hidle => absurd hidle (not_idle hh hbusy)⟩⟩
        · rw [if_neg hbusy]
          cases found with
          | false => exact ⟨rfl, rfl, Or.inl ⟨hstack, hmap, fun _ _ => rfl⟩⟩
          | true =>
              refine ⟨rfl, rfl, Or.inr ⟨o, ⟨hh, Bool.eq_false_iff.mpr hbusy⟩, rfl, ?_, ?_⟩⟩
              · rw [← hstack, ← hperforms]
                rfl
              · rw [← hmap]
                exact perform_curlMap hobjs
  unfold amxCurlEasyPerform
  split
  · exact hperform _ _ rfl rfl rfl rfl rfl
  · exact hperform _ _ rfl rfl rfl rfl rfl

/-- On the way in only the object and its own entry are written to. -/
theorem easyPerform_beside {found : Bool} {fun_ dataLen : Int} (hidle : m.Idle h o)
    (hrec : (m.amxCurlEasyPerform h found fun_ dataLen).curlMap = m.curlMap ∨
      (m.amxCurlEasyPerform h found fun_ dataLen).curlMap =
        m.curlMap.insert (m.obj o).curl o) :
    m.Beside o (m.amxCurlEasyPerform h found fun_ dataLen) := by
  have hobj : ∀ o', (m.amxCurlEasyPerform h found fun_ dataLen).obj o' =
      if m.Idle h o' then
        if found then (m.obj o').start (m.performArgs h fun_ dataLen) else (m.obj o').refuse fun_
      else m.obj o' := fun o' => amxCurlEasyPerform_obj
  have hself : ((m.amxCurlEasyPerform h found fun_ dataLen).obj o).curl = (m.obj o).curl ∧
      ((m.amxCurlEasyPerform h found fun_ dataLen).obj o).responseBody =
        (m.obj o).responseBody := by
    rw [hobj, if_pos hidle]
    split <;> exact ⟨rfl, rfl⟩
  refine {
    others := fun o' hne => ?_
    curl := hself.1
    body := hself.2
    curlMap := fun e hne => ?_
    easies := (m.amxCurlEasyPerform_records h found fun_ dataLen).1
    attached := (m.amxCurlEasyPerform_records h found fun_ dataLen).2.1 }
  · rw [hobj, if_neg fun hidle' => hne (Option.some.inj (hidle'.1.symm.trans hidle.1))]
  · rcases hrec with hrec | hrec
    · rw [hrec]
    · rw [hrec, Finmap.lookup_insert_of_ne _ hne]

/-- Where libcurl does not take the handle, only the object and its own entry are written to. -/
theorem performAdded_beside (m : AmxCurlController) (o : ObjId) (p : PerformId)
    (rest : List Frame) : m.Beside o ({ m with stack := rest }.performAdded o p false) := by
  have hobj : ∀ o', ({ m with stack := rest }.performAdded o p false).obj o' =
      if o = o' then (m.obj o').settle else m.obj o' := by
    intro o'
    rw [obj_of_objs performAdded_objs]
    exact cell_modify' o'
  refine {
    others := fun o' hne => by rw [hobj, if_neg hne.symm]
    curl := by rw [hobj, if_pos rfl]; rfl
    body := by rw [hobj, if_pos rfl]; rfl
    curlMap := fun e hne => ?_
    easies := rfl
    attached := rfl }
  show (m.curlMap.erase (m.obj o).curl).lookup e = _
  exact Finmap.lookup_erase_ne hne

/-- There the object is off all records again. -/
theorem performAdded_off (p : PerformId) (rest : List Frame)
    (hdet : m.attached.lookup (m.obj o).curl = none) :
    Off ({ m with stack := rest }.performAdded o p false) o := by
  have hobj : ({ m with stack := rest }.performAdded o p false).obj o = (m.obj o).settle := by
    rw [obj_of_objs performAdded_objs, Heap.modify_cell_self]
    rfl
  refine ⟨by rw [hobj]; rfl, by rw [hobj]; exact ⟨rfl, rfl⟩, ?_, ?_⟩
  · rw [hobj]
    show (m.curlMap.erase (m.obj o).curl).lookup (m.obj o).curl = none
    exact Finmap.lookup_erase ..
  · rw [hobj]
    exact hdet

/-- While `AddCurl` is inside libcurl the easy handle is not attached. -/
theorem adding_detached {C : AmxCurlController → Action → Prop} (hrun : machine.Run C tr m)
    {p : PerformId} {rest : List Frame} (hs : m.stack = .adding o p :: rest) :
    m.attached.lookup (m.obj o).curl = none := by
  have htask : (o, Task.adding p) ∈ m.transfers.tasks := by
    show (o, Task.adding p) ∈ m.stack.filterMap Frame.task
    rw [hs]
    exact List.mem_cons_self ..
  rw [← Option.not_isSome_iff_eq_none]
  intro hatt
  have hlive := ((run_records hrun).busy htask).1
  exact (((run_records hrun).agree hlive).attached.mp hatt).2.1 ⟨p, htask⟩

/-- The easy handle of an object is the same throughout. -/
theorem run_curl {C D : AmxCurlController → Action → Prop} (hrun : machine.Run C tr m)
    (ho : o < m.objs.next) {rest : List Action} (hrun' : machine.Run D (tr ++ rest) m') :
    (m'.obj o).curl = (m.obj o).curl := by
  refine (hrun.kept (P := fun m' => o < m'.objs.next ∧ (m'.obj o).curl = (m.obj o).curl)
    ⟨ho, rfl⟩ ?_ hrun').2
  intro m₁ a m₂ ⟨hlt, hcurl⟩ _ hn
  rw [next_obj hn, (after_owner (Nat.ne_of_lt hlt)).2.2]
  exact ⟨Nat.lt_of_lt_of_le hlt (next_le hn), hcurl⟩

/-- What a perform was given stays on record. -/
theorem run_performArgs {C D : AmxCurlController → Action → Prop} (hrun : machine.Run C tr m)
    {p : PerformId} (hp : p < m.performs.next) {rest : List Action}
    (hrun' : machine.Run D (tr ++ rest) m') : m'.performs.cell p = m.performs.cell p := by
  refine (hrun.kept (P := fun m' => p < m'.performs.next ∧
    m'.performs.cell p = m.performs.cell p) ⟨hp, rfl⟩ ?_ hrun').2
  intro m₁ a m₂ ⟨hlt, hcell⟩ _ hn
  rcases (next_stack hn).2 with hsame | ⟨h, fun_, dataLen, -, halloc⟩
  · rw [hsame]
    exact ⟨hlt, hcell⟩
  · rw [halloc, Heap.alloc_next, Heap.alloc_cell_lt _ _ hlt]
    exact ⟨Nat.lt_succ_of_lt hlt, hcell⟩

/-- A transfer completes with what its object holds for it now. -/
theorem completes_with (hrun : machine.Run Machine.Free tr m) {e : CurlPtr} {p : PerformId}
    (he : m.easies.lookup e = some o) (ha : m.attached.lookup e = some p) {rest : List Action}
    (hrun' : machine.Run Machine.Free (tr ++ rest) m') {args : PerformArgs}
    (hc : .completed p args ∈ m'.log) :
    args = ⟨(m.obj o).amxCallbackFun, (m.obj o).taskHandle, (m.obj o).amxCallbackData,
      (m.obj o).amxCallbackDataLen⟩ := by
  have hgiven := Transfers.Given.reachable (fun _ => id) (run_reachable hrun).1
  have hgiven' := Transfers.Given.reachable (fun _ => id) (run_reachable hrun').1
  obtain ⟨hp, hargs, -⟩ := hgiven.attached he ha
  have hmajor : .completed p args ∈ m'.transfers.log := List.mem_filter.mpr ⟨hc, rfl⟩
  obtain ⟨-, hargs', -⟩ := hgiven'.completed hmajor
  have hsame : m'.transfers.performs.cell p = m.transfers.performs.cell p :=
    run_performArgs hrun hp hrun'
  rw [hargs', hsame]
  exact hargs.symm

/--
**A perform that starts nothing changes nothing.**  One that is refused before it gets to
libcurl leaves all records as they were.  One that gets there writes, on the way in and
where libcurl does not take the handle, to nothing but its own object and entry, whatever
libcurl has done in between; the object was off all records and is again, and no transfer
runs under the entry that is erased.  Whatever was running before the call completes with
what its object held then.
-/
theorem failed_perform_unharmed {found : Bool} {fun_ dataLen : Int}
    (hrun : machine.Run Machine.Free tr m)
    (hn : m.next (.easyPerform h found fun_ dataLen) = some m') :
    (m'.stack = m.stack ∧ m.Unharmed m' ∧ m.RunsOn m' ∨
      ∃ o p, m'.stack = .adding o p :: m.stack ∧ m.Off o ∧ m.Beside o m' ∧ m.RunsOn m' ∧
        ∀ inside m₁ rest m₂,
          machine.Run Machine.Free (tr ++ .easyPerform h found fun_ dataLen :: inside) m₁ →
          m₁.stack = .adding o p :: rest → m₁.next (.addReturn false) = some m₂ →
          m₁.Beside o m₂ ∧ m₂.Off o ∧ (m₂.obj o).curl = (m.obj o).curl ∧ m₁.RunsOn m₂ ∧
            (inside = [] → m.Unharmed m₂)) ∧
    ∀ e o p, m.easies.lookup e = some o → m.attached.lookup e = some p →
      ∀ rest m₁ args, machine.Run Machine.Free (tr ++ rest) m₁ → .completed p args ∈ m₁.log →
        args = ⟨(m.obj o).amxCallbackFun, (m.obj o).taskHandle, (m.obj o).amxCallbackData,
          (m.obj o).amxCallbackDataLen⟩ := by
  have hrec := run_records hrun
  have hnext := hn
  simp only [next] at hn
  split at hn
  swap
  · simp at hn
  obtain rfl := Option.some.inj hn
  refine ⟨?_, fun e o p he ha rest m₁ args hrun' hc => completes_with hrun he ha hrun' hc⟩
  obtain ⟨heasies, hatt, ⟨hstack, hmap, hnot⟩ | ⟨o, hidle, rfl, hstack, hmap⟩⟩ :=
    m.amxCurlEasyPerform_records h found fun_ dataLen
  · refine Or.inl ⟨hstack, ?_⟩
    by_cases hsome : ∃ o, m.Idle h o
    · obtain ⟨o, hidle⟩ := hsome
      have hoff := hidle.off hrun
      have hbeside := easyPerform_beside hidle (Or.inl hmap)
      refine ⟨hbeside.unharmed hoff ?_, hbeside.runsOn hrec hoff.detached⟩
      have hobj : (m.amxCurlEasyPerform h found fun_ dataLen).obj o = (m.obj o).refuse fun_ := by
        obtain rfl := hnot o hidle
        refine amxCurlEasyPerform_obj.trans ?_
        exact if_pos hidle
      refine ⟨by rw [hobj]; exact hoff.inProgress, by rw [hobj]; exact hoff.data, ?_, ?_⟩
      · rw [hobj, hmap]
        exact hoff.unmapped
      · rw [hobj, hatt]
        exact hoff.detached
    · have hobj : ∀ o, (m.amxCurlEasyPerform h found fun_ dataLen).obj o = m.obj o := by
        intro o
        refine amxCurlEasyPerform_obj.trans ?_
        exact if_neg fun hidle => hsome ⟨o, hidle⟩
      refine ⟨.of_same hobj hmap hatt, ?_⟩
      intro e o p he ha
      rw [hatt, hmap, hobj]
      exact ⟨ha, rfl, rfl⟩
  · have hoff := hidle.off hrun
    rw [hoff.unmapped] at hmap
    have hbeside := easyPerform_beside hidle (Or.inr hmap)
    refine Or.inr ⟨o, m.performs.next, hstack, hoff, hbeside, hbeside.runsOn hrec hoff.detached, ?_⟩
    intro inside m₁ rest m₂ hrun₁ hs hret
    have hdet := adding_detached hrun₁ hs
    have hlt : o < m.objs.next := hrec.objLt ⟨h, hidle.1⟩
    have hcurl : (m₁.obj o).curl = (m.obj o).curl := run_curl hrun hlt hrun₁
    simp only [next, hs] at hret
    rw [if_pos fun hc => absurd hc Bool.false_ne_true] at hret
    obtain rfl := Option.some.inj hret
    have hback := performAdded_beside m₁ o m.performs.next rest
    have hoff' := performAdded_off m.performs.next rest hdet
    refine ⟨hback, hoff', hback.curl.trans hcurl, hback.runsOn (run_records hrun₁) hdet, ?_⟩
    intro hnone
    rw [hnone] at hrun₁
    have hin : m₁ = m.amxCurlEasyPerform h true fun_ dataLen :=
      hrun₁.unique (hrun.snoc trivial hnext)
    rw [hin] at hback hoff' ⊢
    exact (hbeside.trans hback).unharmed hoff hoff'

/-- A data callback of one handle is inside Pawn code; there is another handle, which is idle. -/
def insideCallback : List Action :=
  [.load 7, .easyInit 7 (some 100), .easyInit 7 (some 101),
    .setCallback 1 (some .writeFunction) (some 5) (0, 0), .easyPerform 1 true 3 2,
    .addReturn true, .poll, .callback 0 (.write [1, 2])]

def atCallback : AmxCurlController :=
  (machine.exec Machine.Free boot insideCallback).get (by decide)

/-- It performs the other handle. -/
def recursing : AmxCurlController :=
  (atCallback.next (.easyPerform 2 true 4 3)).get (by decide)

/-- libcurl does not take a handle from inside a callback. -/
def recursed : AmxCurlController := (recursing.next (.addReturn false)).get (by decide)

theorem failed_perform_unharmed_recursive :
    atCallback.Unharmed recursed ∧ recursing.RunsOn recursed := by
  have hrun : machine.Run Machine.Free insideCallback atCallback :=
    Machine.run_of_exec (Option.some_get _).symm
  have hn : atCallback.next (.easyPerform 2 true 4 3) = some recursing := (Option.some_get _).symm
  have hret : recursing.next (.addReturn false) = some recursed := (Option.some_get _).symm
  rcases (failed_perform_unharmed hrun hn).1 with ⟨hs, -⟩ | ⟨o, p, hs, -, -, -, hback⟩
  · exact absurd (congrArg List.length hs) (by decide)
  · obtain ⟨-, -, -, hruns, hsame⟩ :=
      hback [] recursing _ recursed (hrun.snoc trivial hn) hs hret
    exact ⟨hsame rfl, hruns⟩

end AmxCurlController

end AmxxCurl
