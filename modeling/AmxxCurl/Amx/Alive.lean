/-
Nobody returns into a handle that is gone.

libcurl holds pointers into the module while it runs: the easy handle it is calling back
for, the `AmxCurl` whose `Perform` or `OnPerformComplete` has called it.  In the meantime
Pawn code runs, which may clean up any handle it knows.  What protects these is
`is_transfer_in_progress_`: `RemoveTask` and the sweep destroy idle handles only, the
teardown does not begin inside a callback, and the flag is cleared by the frame of the
handle itself, which has none of the handle's data callbacks under it.

That libcurl calls back only for easy handles it has been given is its own promise, and the
one condition here.
-/
import AmxxCurl.Amx.Handles
import AmxxCurl.Amx.Nesting
import AmxxCurl.Amx.Objects

namespace AmxxCurl

namespace AmxCurlController

variable {m m' : AmxCurlController} {a : Action} {o : ObjId} {h : AmxCurlHandle}

/-- The object has a handle number, and its transfer is in progress. -/
def Alive (m : AmxCurlController) (o : ObjId) : Prop :=
  (∃ h, m.amxCurl.lookup h = some o) ∧ (m.obj o).isTransferInProgress = true

/-! ### Who may be called back for -/

/-- A `Perform` of the object. -/
def Frame.isAddingOf (o : ObjId) : Frame → Bool
  | .adding o' _ => o' = o
  | _ => false

/-- libcurl has the easy handle of the object, or is being given it. -/
def Engaged (m : AmxCurlController) (o : ObjId) : Prop :=
  (m.attached.lookup (m.obj o).curl).isSome = true ∨ m.stack.any (Frame.isAddingOf o) = true

/-- libcurl calls back for easy handles it has been given. -/
def CallsEngaged (m : AmxCurlController) : Action → Prop
  | .callback o _ => m.Engaged o
  | _ => True

instance (m : AmxCurlController) (o : ObjId) : Decidable (m.Engaged o) :=
  inferInstanceAs (Decidable (_ ∨ _))

instance (m : AmxCurlController) : ∀ a, Decidable (m.CallsEngaged a)
  | .callback o _ => inferInstanceAs (Decidable (m.Engaged o))
  | .load _ | .unload _ | .easyInit .. | .setCallback .. | .setOption .. | .easyPerform ..
  | .easyReset _ | .easyCleanup _ | .addReturn _ | .removeReturn _ | .postDone ..
  | .socketActionReturn | .readMessage | .checkMultiInfoReturn | .pawnReturn _ | .poll | .sweep _
  | .onAmxxDetach | .drained .. | .exit | .teardown _ => inferInstanceAs (Decidable True)

theorem attached_alive (hr : Transfers.Records m.transfers) {e : CurlPtr} {p : PerformId}
    (he : m.attached.lookup e = some p) : ∃ o, (m.obj o).curl = e ∧ m.Alive o := by
  obtain ⟨o, ho⟩ := hr.attachOwner he
  obtain ⟨hlive, hcurl⟩ := hr.easy.mp ho
  have hcurl : (m.obj o).curl = e := hcurl
  have hsome : (m.transfers.attached.lookup (m.transfers.obj o).curl).isSome = true := by
    show (m.attached.lookup (m.obj o).curl).isSome = true
    rw [hcurl, he]
    rfl
  exact ⟨o, hcurl, hlive, ((hr.agree hlive).attached.mp hsome).1⟩

theorem task_alive (hr : Transfers.Records m.transfers) {f : Frame} (hf : f ∈ m.stack)
    {k : Task} (hk : f.task = some (o, k)) : m.Alive o := by
  have hmem : (o, k) ∈ m.transfers.tasks := List.mem_filterMap.mpr ⟨f, hf, hk⟩
  exact hr.busy hmem

theorem Engaged.alive (hr : Transfers.Records m.transfers) (he : m.Engaged o)
    (howner : m.easies.lookup (m.obj o).curl = some o) : m.Alive o := by
  rcases he with hatt | hadd
  · obtain ⟨p, hp⟩ := Option.isSome_iff_exists.mp hatt
    obtain ⟨o', hcurl, halive⟩ := attached_alive hr hp
    have heasy : m.easies.lookup (m.obj o').curl = some o' := hr.easy.mpr ⟨halive.1, rfl⟩
    rw [hcurl, howner] at heasy
    exact Option.some.inj heasy ▸ halive
  · obtain ⟨f, hf, hof⟩ := List.any_eq_true.mp hadd
    cases f with
    | adding o' p =>
        obtain rfl : o' = o := by simpa [Frame.isAddingOf] using hof
        exact task_alive hr hf rfl
    | _ => exact absurd hof Bool.false_ne_true

/-! ### A step keeps them alive -/

/-- A transfer in progress is ended by the frame of its own handle. -/
theorem Alive.next (ha : m.Alive o) (hr : Transfers.Records m.transfers)
    (hpool : m.pool.Sound (0 < ·)) (hn : m.next a = some m') (hdown : ∀ order, a ≠ .teardown order)
    (hown : ∀ f rest k, m.stack = f :: rest → f.task = some (o, k) →
      (∀ ok, a ≠ .addReturn ok) ∧ ∀ g, a ≠ .removeReturn g) : m'.Alive o := by
  obtain ⟨⟨h, hh⟩, hbusy⟩ := ha
  have hnot : ∀ h, ¬m.Destroys h o a := by
    intro h hd
    cases a with
    | easyCleanup => exact absurd hd.2 (by simp [hbusy])
    | sweep => exact absurd hd.2.2 (by simp [hbusy])
    | teardown order => exact hdown order rfl
    | _ => exact hd.elim
  refine ⟨⟨h, by_contra fun hlost => hnot h (next_lost hpool hn hh hlost)⟩, ?_⟩
  rw [next_obj hn]
  rcases m.after_touch a o with ht | ⟨hnew, -⟩
  · generalize m.after a o = y at ht
    cases ht with
    | start => rfl
    | notAdded p rest haction hs => exact absurd haction ((hown _ rest _ hs rfl).1 false)
    | removed f p res rest haction hs => exact absurd haction ((hown _ rest _ hs rfl).2 f)
    | destroyed h _ hd => exact absurd hd (hnot h)
    | _ => exact hbusy
  · have hlt : o < m.objs.next := hr.objLt ⟨h, hh⟩
    rw [hnew] at hlt
    exact absurd hlt (Nat.lt_irrefl _)

/-- Under a `Perform` or `OnPerformComplete` there is no data callback of the same handle. -/
def Apart : List Frame → Prop
  | [] => True
  | f :: rest => (∀ o k, f.task = some (o, k) → ∀ g ∈ rest, g.isDataOf o = false) ∧ Apart rest

/-- The handles whose data callbacks are in Pawn are alive. -/
structure Sheltered (m : AmxCurlController) : Prop where
  alive : ∀ f ∈ m.stack, ∀ o, f.isDataOf o = true → m.Alive o
  apart : Apart m.stack

theorem Sheltered.next (hs : m.Sheltered) (hr : Transfers.Records m.transfers)
    (hpool : m.pool.Sound (0 < ·)) (hnest : Nested m.stack) (hc : m.CallsEngaged a)
    (hn : m.next a = some m') : m'.Sheltered := by
  -- what was on the stack before keeps its handle
  have hold : ∀ f ∈ m.stack, ∀ o, f.isDataOf o = true → m'.Alive o := by
    intro f hf o hof
    refine (hs.alive f hf o hof).next hr hpool hn ?_ ?_
    · rintro order rfl
      cases next_fires hn with
      | teardown order m' hempty ht =>
          rw [hempty] at hf
          exact absurd hf List.not_mem_nil
    · intro g rest k hstack hk
      have hapart := hs.apart
      rw [hstack] at hf hapart
      rcases List.mem_cons.mp hf with rfl | hf
      · cases f with
        | dataCallback => simp [Frame.task] at hk
        | _ => exact absurd hof Bool.false_ne_true
      · rw [hapart.1 o k hk f hf] at hof
        exact absurd hof Bool.false_ne_true
  have hcall : ∀ {f : Frame} {rest : List Frame}, (∀ o, f.isDataOf o = true → m'.Alive o) →
      (∀ g ∈ rest, g ∈ m.stack) → ∀ g ∈ f :: rest, ∀ o, g.isDataOf o = true → m'.Alive o := by
    intro f rest hnew hrest g hg
    rcases List.mem_cons.mp hg with rfl | hg
    · exact hnew
    · exact hold g (hrest g hg)
  have hother : ∀ {f : Frame}, (∀ o, f.isDataOf o = false) →
      ∀ o, f.isDataOf o = true → m'.Alive o := by
    intro f hf o hof
    rw [hf o] at hof
    exact absurd hof Bool.false_ne_true
  have hstack := next_restacks hn
  refine ⟨?_, ?_⟩
  · generalize m'.stack = s at hstack
    cases hstack with
    | same => exact hold
    | adding => exact hcall (hother fun _ => rfl) fun _ => id
    | dataCallback o k c q n =>
        refine hcall (fun o' hof => ?_) fun _ => id
        obtain rfl : o = o' := by simpa [Frame.isDataOf] using hof
        cases next_fires hn with
        | callback o k hl howner =>
            refine (Engaged.alive hr hc howner).next hr hpool hn (by simp) ?_
            intro g rest k' _ _
            exact ⟨by simp, by simp⟩
    | removing => exact hcall (hother fun _ => rfl) fun _ => id
    | popped _ g rest hpop =>
        intro f hf
        exact hold f (hpop ▸ List.mem_cons_of_mem _ hf)
    | completion g o p res rest b q data hpop =>
        exact hcall (hother fun _ => rfl) fun f hf => hpop ▸ List.mem_cons_of_mem _ hf
    | loop rest hpop =>
        exact hcall (hother fun _ => rfl) fun f hf => hpop ▸ List.mem_cons_of_mem _ hf
    | handler => exact hcall (hother fun _ => rfl) fun f hf => absurd hf List.not_mem_nil
  · have hapart := hs.apart
    generalize m'.stack = s at hstack
    cases hstack with
    | same => exact hapart
    | adding h found fun_ dataLen o p _ hidle =>
        refine ⟨fun o' k hk g hg => Bool.eq_false_iff.mpr fun hof => ?_, hapart⟩
        obtain ⟨rfl, -⟩ := Prod.mk.inj (Option.some.inj hk)
        rw [(hs.alive g hg o hof).2] at hidle
        exact absurd hidle.symm Bool.false_ne_true
    | dataCallback o k c q n => exact ⟨by simp [Frame.task], hapart⟩
    | removing o p res rest hloop =>
        refine ⟨fun o' k hk g hg => ?_, hapart⟩
        -- the loop is the asio handler, which has nothing under it
        rw [hloop] at hg hnest
        obtain rfl := hnest.alone rfl
        rw [List.mem_singleton.mp hg]
        rfl
    | popped _ g rest hpop =>
        rw [hpop] at hapart
        exact hapart.2
    | completion g o p res rest b q data hpop =>
        rw [hpop] at hapart
        exact ⟨by simp [Frame.task], hapart.2⟩
    | loop rest hpop =>
        rw [hpop] at hapart
        exact ⟨by simp [Frame.task], hapart.2⟩
    | handler => exact ⟨by simp [Frame.task], trivial⟩

/-! ### Runs -/

/-- The object whose member function a frame is in. -/
def Frame.object : Frame → Option ObjId
  | .adding o _ | .removing o _ _ | .dataCallback o _ _ _ => some o
  | _ => none

variable {tr : List Action}

theorem run_sheltered (hrun : machine.Run CallsEngaged tr m) : m.Sheltered := by
  refine hrun.history (P := fun _ m => m.Sheltered) ⟨by simp [machine, boot], trivial⟩ ?_
  intro tr m a m' hr hs hc hn
  exact hs.next (run_records hr) (run_pool hr) (run_nested hr) hc hn

/--
**No handle is destroyed under its own callback, nor while libcurl has it.**  Whatever Pawn
code does inside the callbacks, each `AmxCurl` that a call on the stack belongs to is in
the map with its transfer in progress until that call returns; so is each easy handle that
is attached to the multi; and the completions in `curl_map_` are those of objects that
exist.
-/
theorem frames_alive (hrun : machine.Run CallsEngaged tr m) :
    (∀ f ∈ m.stack, ∀ o, f.object = some o → m.Alive o) ∧
    (∀ e p, m.attached.lookup e = some p → ∃ o, (m.obj o).curl = e ∧ m.Alive o) ∧
    ∀ e o, m.curlMap.lookup e = some o → (∃ h, m.amxCurl.lookup h = some o) ∧ (m.obj o).curl = e := by
  have hr := run_records hrun
  refine ⟨fun f hf o hof => ?_, fun e p he => attached_alive hr he, fun e o he => ?_⟩
  · cases f with
    | adding o' p =>
        obtain rfl := Option.some.inj hof
        exact task_alive hr hf rfl
    | removing o' p res =>
        obtain rfl := Option.some.inj hof
        exact task_alive hr hf rfl
    | dataCallback o' c q n =>
        obtain rfl := Option.some.inj hof
        exact (run_sheltered hrun).alive _ hf o' (by simp [Frame.isDataOf])
    | _ => simp [Frame.object] at hof
  · exact hr.easy.mp (hr.mapOwner he)

/-- The callbacks of both handles are in Pawn, which has given up both. -/
def selfCleaning : List Action := nesting ++ [.easyCleanup 1, .easyCleanup 2]

def selfCleaned : AmxCurlController :=
  (machine.exec CallsEngaged boot selfCleaning).get (by decide)

theorem frames_alive_self_cleaned : selfCleaned.stack.length = 4 ∧
    ∀ f ∈ selfCleaned.stack, ∀ o, f.object = some o → selfCleaned.Alive o := by
  have hrun : machine.Run CallsEngaged selfCleaning selfCleaned :=
    Machine.run_of_exec (Option.some_get _).symm
  exact ⟨by decide, (frames_alive hrun).1⟩

end AmxCurlController

end AmxxCurl
