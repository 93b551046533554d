/-
Where the easy handle of an object is.

An object is idle, inside `curl_multi_add_handle` or `curl_multi_remove_handle`, attached,
or has been taken off the multi by `RemoveAllTasks` with its flag left set.  `place` reads
that off the three records.  Few functions take an easy handle from one place to another;
for each of these there is a lemma, and `next_place` is about all the others.
-/
import AmxxCurl.Amx.Handles
import AmxxCurl.Amx.Nesting
import AmxxCurl.Amx.Objects
import AmxxCurl.Amx.Refinement

namespace AmxxCurl

open AmxCurlController
open Transfers (Records)

/-- Where the easy handle of an object is. -/
inductive Place
  | idle
  /-- Inside `curl_multi_add_handle`. -/
  | adding
  | attached
  /-- Inside `curl_multi_remove_handle`. -/
  | removing
  /-- `RemoveAllTasks` has taken it off the multi; the flag of the object is still set. -/
  | dropped
  deriving DecidableEq

/-- Where a call of the object that is inside libcurl has its easy handle. -/
def Task.place : Task → Place
  | .adding _ => .adding
  | .removing _ _ => .removing

namespace Transfers

/-- Where the easy handle of an object is, by the records. -/
def place (t : Transfers) (o : ObjId) : Place :=
  if (t.obj o).inProgress then
    match t.tasks.lookup o with
    | some k => k.place
    | none => if (t.attached.lookup (t.obj o).curl).isSome then .attached else .dropped
  else .idle

variable {t t' : Transfers} {o : ObjId}

theorem place_idle (hidle : (t.obj o).inProgress = false) : t.place o = .idle :=
  if_neg (by simp [hidle])

/-- Nothing has changed that the place depends on. -/
theorem place_same (hp : (t'.obj o).inProgress = (t.obj o).inProgress)
    (hk : t'.tasks.lookup o = t.tasks.lookup o)
    (ha : t'.attached.lookup (t'.obj o).curl = t.attached.lookup (t.obj o).curl) :
    t'.place o = t.place o := by
  unfold place
  rw [hp, hk, ha]

theorem lookup_tasks (hr : Records t) {k : Task} (hk : (o, k) ∈ t.tasks) :
    t.tasks.lookup o = some k := by
  obtain ⟨ks, ks', heq⟩ := List.append_of_mem hk
  refine List.lookup_eq_some_iff.mpr ⟨ks, ks', heq, fun p hp => ?_⟩
  -- an object is on the stack once
  have hnodup := hr.nodup
  rw [heq, List.map_append, List.nodup_append] at hnodup
  have hne : p.1 ≠ o :=
    hnodup.2.2 _ (List.mem_map_of_mem hp) _ (List.mem_map_of_mem (List.mem_cons_self ..))
  exact bne_iff_ne.mpr hne.symm

theorem place_task (hr : Records t) {k : Task} (hk : (o, k) ∈ t.tasks) : t.place o = k.place := by
  unfold place
  rw [if_pos (hr.busy hk).2, lookup_tasks hr hk]

theorem lookup_tasks_none (hk : ∀ k, (o, k) ∉ t.tasks) : t.tasks.lookup o = none := by
  refine List.lookup_eq_none_iff.mpr fun p hp => bne_iff_ne.mpr ?_
  rintro rfl
  exact hk p.2 hp

theorem place_off (hp : (t.obj o).inProgress = true) (hk : ∀ k, (o, k) ∉ t.tasks) :
    t.place o = if (t.attached.lookup (t.obj o).curl).isSome then .attached else .dropped := by
  unfold place
  rw [if_pos hp, lookup_tasks_none hk]

end Transfers

namespace AmxCurlController

variable {m m' : AmxCurlController} {a : Action} {o : ObjId} {h : AmxCurlHandle}

/-! ### What stays where it is -/

/-- No easy handle is taken into libcurl or out of it. -/
structure SamePlaces (m m' : AmxCurlController) : Prop where
  tasks : m'.transfers.tasks = m.transfers.tasks
  attached : m'.attached = m.attached

namespace SamePlaces

theorem trans {m'' : AmxCurlController} (h : SamePlaces m m') (h' : SamePlaces m' m'') :
    SamePlaces m m'' :=
  ⟨h'.tasks.trans h.tasks, h'.attached.trans h.attached⟩

theorem keeps (h : Keeps m m') : SamePlaces m m' :=
  ⟨congrArg Transfers.tasks h, congrArg Transfers.attached h⟩

/-- An object is destroyed after it has left the tables. -/
theorem destroyed (h : SamePlaces m m') : SamePlaces m (m'.destroyAmxCurl o) := by
  have ht := destroyAmxCurl_transfers (m := m') (o := o)
  exact h.trans ⟨(congrArg Transfers.tasks ht).trans rfl, (congrArg Transfers.attached ht).trans rfl⟩

theorem createCurl {b : AmxPtr} {q : PluginId} {reply : Option CurlPtr} :
    SamePlaces m (m.createCurl b q reply) := by
  cases reply with
  | none => rcases m.createCurl_lost b q with heq | ⟨-, heq⟩ <;> rw [heq] <;> exact ⟨rfl, rfl⟩
  | some e =>
      unfold AmxCurlController.createCurl
      dsimp only
      split
      · exact destroyed ⟨rfl, rfl⟩
      · exact ⟨rfl, rfl⟩

theorem removeTask : SamePlaces m (m.removeTask h) := by
  unfold AmxCurlController.removeTask
  split
  · exact ⟨rfl, rfl⟩
  · split
    · exact ⟨rfl, rfl⟩
    · exact destroyed ⟨rfl, rfl⟩

theorem curlReset : SamePlaces m (m.curlReset h) := by
  unfold AmxCurlController.curlReset
  split
  · exact ⟨rfl, rfl⟩
  · split <;> exact ⟨rfl, rfl⟩

theorem sweepDeferredCleanups (order : List AmxCurlHandle) :
    ∀ m : AmxCurlController, SamePlaces m (m.sweepDeferredCleanups order) := by
  induction order with
  | nil => exact fun _ => ⟨rfl, rfl⟩
  | cons h order ih =>
      intro m
      have hone : SamePlaces m (m.sweepOne h) := by
        unfold sweepOne
        split
        · exact ⟨rfl, rfl⟩
        · split
          · exact destroyed ⟨rfl, rfl⟩
          · exact ⟨rfl, rfl⟩
      exact hone.trans (ih (m.sweepOne h))

end SamePlaces

/-- The actions that may take an easy handle into libcurl or out of it. -/
def Action.moves : Action → Bool
  | .easyPerform _ _ _ _ | .addReturn _ | .readMessage | .removeReturn _ | .teardown _ => true
  | _ => false

theorem next_samePlaces (hn : m.next a = some m') (ha : a.moves = false) : SamePlaces m m' := by
  have hpop : ∀ {f : Frame} {rest : List Frame}, m.stack = f :: rest → f.task = none →
      rest.filterMap Frame.task = m.stack.filterMap Frame.task := by
    intro f rest hs hf
    rw [hs, List.filterMap_cons_none hf]
  cases next_fires hn with
  | easyInit => exact .createCurl
  | setCallback => exact .keeps .curlSetupAmxCallback
  | setOption => exact .keeps .curlSetOption
  | easyPerform => simp [Action.moves] at ha
  | easyCleanup => exact .removeTask
  | easyReset => exact .curlReset
  | addReturn => simp [Action.moves] at ha
  | removeReturn => simp [Action.moves] at ha
  | callback => exact .keeps .callback
  | socketActionReturn rest hs =>
      have hrest := hpop hs rfl
      exact ⟨hrest, rfl⟩
  | readMessage => simp [Action.moves] at ha
  | checkMultiInfoReturn rest hs =>
      have hrest := hpop hs rfl
      exact ⟨hrest, rfl⟩
  | completionReturn result b q f data rest hs =>
      have hrest := hpop hs rfl
      exact .keeps (Keeps.trans (.stack hrest) .completionReturn)
  | dataCallbackReturn result o c q expected rest hs =>
      have hrest := hpop hs rfl
      exact .keeps (Keeps.trans (.stack hrest) .dataCallbackReturn)
  | poll hs =>
      refine ⟨?_, rfl⟩
      show _ = m.stack.filterMap Frame.task
      rw [hs]
      rfl
  | sweep order => exact .sweepDeferredCleanups order m
  | drained =>
      split
      · exact ⟨rfl, rfl⟩
      · exact ⟨rfl, rfl⟩
  | teardown => simp [Action.moves] at ha
  | _ => exact ⟨rfl, rfl⟩

/-- A transfer begins and ends with such a move. -/
theorem after_progress (ha : a.moves = false) (hne : o ≠ m.objs.next) :
    (m.after a o).isTransferInProgress = (m.obj o).isTransferInProgress := by
  rcases m.after_touch a o with ht | ⟨hnew, -⟩
  · generalize m.after a o = y at ht
    cases ht with
    | start h fun_ dataLen he => simp [he, Action.moves] at ha
    | notAdded p rest he => simp [he, Action.moves] at ha
    | removed f p res rest he => simp [he, Action.moves] at ha
    | destroyed => cases m.valid o <;> rfl
    | _ => rfl
  · exact absurd hnew hne

theorem next_place (hr : Records m.transfers) (hn : m.next a = some m') (ha : a.moves = false)
    (ho : m.transfers.IsLive o) : m'.transfers.place o = m.transfers.place o := by
  have hne : o ≠ m.objs.next := Nat.ne_of_lt (hr.objLt ho)
  have hsame := next_samePlaces hn ha
  refine Transfers.place_same ?_ (congrArg (List.lookup o) hsame.tasks) ?_
  · show (m'.obj o).isTransferInProgress = _
    rw [next_obj hn]
    exact after_progress ha hne
  · show m'.attached.lookup (m'.obj o).curl = m.attached.lookup (m.obj o).curl
    rw [hsame.attached, next_obj hn, (after_owner hne).2.2]

/-! ### What the stack says -/

theorem lookup_push_ne {o' : ObjId} {k : Task} {ks : List (ObjId × Task)} (hne : o' ≠ o) :
    List.lookup o ((o', k) :: ks) = ks.lookup o := by
  rw [List.lookup_cons, beq_false_of_ne hne.symm]

/-- What is on the stack once is not under what returns. -/
theorem lookup_popped {k : Task} {ks : List (ObjId × Task)} (hr : Records m.transfers)
    (htasks : m.transfers.tasks = (o, k) :: ks) : ks.lookup o = none := by
  have hnodup := hr.nodup
  rw [htasks, List.map_cons, List.nodup_cons] at hnodup
  refine List.lookup_eq_none_iff.mpr fun p hp => bne_iff_ne.mpr ?_
  rintro rfl
  exact hnodup.1 (List.mem_map.mpr ⟨p, hp, rfl⟩)

theorem curl_ne {o' : ObjId} (hr : Records m.transfers) (ho : m.transfers.IsLive o)
    (ho' : m.transfers.IsLive o') (hne : o' ≠ o) : (m.obj o).curl ≠ (m.obj o').curl :=
  fun heq => hne (hr.curl_inj ho' ho heq.symm)

theorem no_tasks (hs : m.stack = []) (k : Task) : (o, k) ∉ m.transfers.tasks := by
  show (o, k) ∉ m.stack.filterMap Frame.task
  rw [hs]
  exact List.not_mem_nil

/-! ### What moves -/

/-- `curl_easy_perform` goes into `curl_multi_add_handle` with the object of an idle handle. -/
theorem amxCurlEasyPerform_places (m : AmxCurlController) (h : AmxCurlHandle) (found : Bool)
    (fun_ dataLen : Int) :
    (m.amxCurlEasyPerform h found fun_ dataLen).attached = m.attached ∧
      ((∀ o, ¬(m.Idle h o ∧ found = true)) ∧
          (m.amxCurlEasyPerform h found fun_ dataLen).transfers.tasks = m.transfers.tasks ∨
        ∃ o p, m.Idle h o ∧ found = true ∧
          (m.amxCurlEasyPerform h found fun_ dataLen).transfers.tasks =
            (o, .adding p) :: m.transfers.tasks) := by
  have htask : ∀ (m₁ : AmxCurlController) {data : Option DataId},
      m₁.amxCurl = m.amxCurl → m₁.objs = m.objs → m₁.stack = m.stack → m₁.attached = m.attached →
      (m₁.curlPerformTask h found fun_ data dataLen).attached = m.attached ∧
      ((∀ o, ¬(m.Idle h o ∧ found = true)) ∧
          (m₁.curlPerformTask h found fun_ data dataLen).transfers.tasks = m.transfers.tasks ∨
        ∃ o p, m.Idle h o ∧ found = true ∧
          (m₁.curlPerformTask h found fun_ data dataLen).transfers.tasks =
            (o, .adding p) :: m.transfers.tasks) := by
    intro m₁ data hhandles hobjs hstack hatt
    have htasks : m₁.transfers.tasks = m.transfers.tasks := congrArg (List.filterMap _) hstack
    unfold curlPerformTask
    rw [hhandles]
    cases hh : m.amxCurl.lookup h with
    | none => exact ⟨hatt, Or.inl ⟨fun o hidle => unknown_not_idle hh hidle.1, htasks⟩⟩
    | some o =>
        dsimp only
        rw [obj_of_objs hobjs]
        split
        · rename_i hbusy
          exact ⟨hatt, Or.inl ⟨fun o' hidle => not_idle hh hbusy hidle.1, htasks⟩⟩
        · rename_i hidle
          cases found with
          | false => exact ⟨hatt, Or.inl ⟨fun o' hidle => Bool.false_ne_true hidle.2, htasks⟩⟩
          | true =>
              refine ⟨hatt, Or.inr ⟨o, m₁.performs.next, ⟨hh, Bool.eq_false_iff.mpr hidle⟩, rfl, ?_⟩⟩
              exact congrArg (List.cons _) htasks
  unfold amxCurlEasyPerform
  split
  · exact htask _ rfl rfl rfl rfl
  · exact htask _ rfl rfl rfl rfl

/-- A message is about an object that is attached and inside no call. -/
theorem mapped_attached {e : CurlPtr} {p : PerformId} {res : CurlCode} (hr : Records m.transfers)
    (ho : m.transfers.IsLive o) (hmap : m.curlMap.lookup e = some o)
    (hmsg : (e, p, res) ∈ m.messages) : m.transfers.place o = .attached := by
  have hcurl : (m.transfers.obj o).curl = e := (hr.easy.mp (hr.mapOwner hmap)).2
  have hatt : (m.transfers.attached.lookup (m.transfers.obj o).curl).isSome := by
    rw [hcurl, hr.queued hmsg]
    rfl
  have hmapped : (m.transfers.curlMap.lookup (m.transfers.obj o).curl).isSome := by
    rw [hcurl, show m.transfers.curlMap.lookup e = some o from hmap]
    rfl
  obtain ⟨hbusy, hremoving, -⟩ := (hr.agree ho).mapped.mp hmapped
  have hadding := ((hr.agree ho).attached.mp hatt).2.1
  rw [Transfers.place_off hbusy, if_pos hatt]
  intro k hk
  cases k with
  | adding p => exact hadding ⟨p, hk⟩
  | removing p res => exact hremoving ⟨p, res, hk⟩

/-- A message that is read leads into `curl_multi_remove_handle`, if its handle is mapped. -/
theorem checkMultiInfo_places {e : CurlPtr} {p : PerformId} {res : CurlCode}
    {ms : List (CurlPtr × PerformId × CurlCode)} (hmsg : m.messages = (e, p, res) :: ms) :
    m.checkMultiInfo.attached = m.attached ∧
      (m.curlMap.lookup e = none ∧ m.checkMultiInfo.transfers.tasks = m.transfers.tasks ∨
        ∃ o, m.curlMap.lookup e = some o ∧
          m.checkMultiInfo.transfers.tasks = (o, .removing p res) :: m.transfers.tasks) := by
  unfold checkMultiInfo
  rw [hmsg]
  dsimp only
  split
  · rename_i hmap
    exact ⟨rfl, Or.inl ⟨hmap, rfl⟩⟩
  · rename_i o hmap
    exact ⟨rfl, Or.inr ⟨o, hmap, rfl⟩⟩

theorem removeTransfer_attached {k : AmxCurlHandle} (hk : m.amxCurl.lookup k = some o) :
    (m.removeTransfer k).attached =
      if (m.obj o).isTransferInProgress then m.attached.erase (m.obj o).curl else m.attached := by
  unfold removeTransfer
  rw [hk]
  dsimp only
  split <;> rfl

/-- A handle that `RemoveAllTasks` has yet to visit is on the multi if its flag says so. -/
theorem unvisited_place {actor : Actor} {k : AmxCurlHandle} {todo : List AmxCurlHandle}
    (hr : Records m.transfers) (hs : m.stack = []) (hph : m.phase = .removing actor (k :: todo))
    (hk : m.amxCurl.lookup k = some o) (hbusy : (m.obj o).isTransferInProgress = true) :
    m.transfers.place o = .attached := by
  have hnot : ¬m.transfers.Dropped o := by
    unfold Transfers.Dropped
    rw [show m.transfers.phase = _ from hph]
    rintro ⟨k', hk', hleft⟩
    obtain rfl := hr.handleInj hk' hk
    exact hleft (List.mem_cons_self ..)
  have hadding : ¬m.transfers.Adding o := fun ⟨p, hp⟩ => no_tasks hs _ hp
  have hhas : (m.transfers.attached.lookup (m.transfers.obj o).curl).isSome :=
    (hr.agree ⟨k, hk⟩).attached.mpr ⟨hbusy, hadding, hnot⟩
  rw [Transfers.place_off hbusy (no_tasks hs), if_pos hhas]

/-- The map is destroyed after `RemoveAllTasks`, with nothing on the multi. -/
theorem cleared_place (hr : Records m.transfers) (hs : m.stack = []) {actor : Actor}
    {todo : List AmxCurlHandle} (hph : m.phase = .clearing actor todo) (ho : m.transfers.IsLive o) :
    m.transfers.place o = .idle ∨ m.transfers.place o = .dropped := by
  by_cases hbusy : (m.obj o).isTransferInProgress = true
  · refine Or.inr ((Transfers.place_off hbusy (no_tasks hs)).trans (if_neg fun hatt => ?_))
    have hnot := ((hr.agree ho).attached.mp hatt).2.2
    unfold Transfers.Dropped at hnot
    rw [show m.transfers.phase = _ from hph] at hnot
    exact hnot trivial
  · exact Or.inl (Transfers.place_idle (Bool.eq_false_iff.mpr hbusy))

end AmxCurlController

end AmxxCurl
