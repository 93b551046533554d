/-
The drain loop of `OnAmxxDetach`.

`TryInterruptAllTransfers` sets the flag of every handle there is, once; the loop then
polls until no transfer is in progress or the time is up.  The completions it runs are
plugin code, which may make a handle, reset one, and perform.  `RemoveTask` never clears
the flag and `CurlReset` not while a transfer is in progress, so a transfer that is not
interrupted is one that began so: what matters is the flag at each perform.
-/
import AmxxCurl.Amx.Objects
import AmxxCurl.Amx.Refinement

namespace AmxxCurl

open AmxCurlController

namespace AmxCurlController

variable {m m' : AmxCurlController} {tr : List Action} {a : Action} {o : ObjId} {h : AmxCurlHandle}

/-- The next body or header callback of the object tells libcurl to stop. -/
structure Aborting (m : AmxCurlController) (o : ObjId) : Prop where
  interrupt : (m.obj o).interrupt = true
  body : ∀ chunk, m.next (.callback o (.write chunk)) = none ∨
    m.next (.callback o (.write chunk)) = some (m.emit [.returned o .writeFunction 0])
  header : ∀ n, m.next (.callback o (.header n)) = none ∨
    m.next (.callback o (.header n)) = some (m.emit [.returned o .headerFunction 0])

/-- In the drain loop every transfer in progress is to be aborted. -/
def AllAborting (m : AmxCurlController) : Prop :=
  m.phase = .draining →
    ∀ h o, m.amxCurl.lookup h = some o → (m.obj o).isTransferInProgress = true → m.Aborting o

/-- In the drain loop no perform begins on a handle that is not interrupted. -/
def StartsInterrupted (m : AmxCurlController) : Action → Prop
  | .easyPerform h found _ _ =>
      m.phase = .draining → found = true → ∀ o, m.Idle h o → (m.obj o).interrupt = true
  | _ => True

/-! ### What the flag does -/

theorem aborting (hint : (m.obj o).interrupt = true) : m.Aborting o where
  interrupt := hint
  body := by
    intro chunk
    simp only [next, callback, writeCallback, hint, if_true]
    split
    · exact Or.inr rfl
    · exact Or.inl rfl
  header := by
    intro n
    simp only [next, callback, headerCallback, dataCallback, hint, if_true]
    split
    · exact Or.inr rfl
    · exact Or.inl rfl

/-- `curl_easy_perform` leaves the phase and the handles alone. -/
theorem amxCurlEasyPerform_phase (m : AmxCurlController) (h : AmxCurlHandle) (found : Bool)
    (fun_ dataLen : Int) :
    (m.amxCurlEasyPerform h found fun_ dataLen).phase = m.phase ∧
      (m.amxCurlEasyPerform h found fun_ dataLen).amxCurl = m.amxCurl := by
  have htask : ∀ (m₁ : AmxCurlController) {data : Option DataId},
      (m₁.curlPerformTask h found fun_ data dataLen).phase = m₁.phase ∧
        (m₁.curlPerformTask h found fun_ data dataLen).amxCurl = m₁.amxCurl := by
    intro m₁ data
    unfold curlPerformTask
    split
    · exact ⟨rfl, rfl⟩
    · split
      · exact ⟨rfl, rfl⟩
      · unfold perform
        dsimp only
        split <;> exact ⟨rfl, rfl⟩
  unfold amxCurlEasyPerform
  split
  · exact htask { m with nextData := m.nextData + 1 }
  · exact htask m

/-- The drain loop is entered by `OnAmxxDetach` only. -/
theorem next_draining (hrun : machine.Run Machine.Free tr m) (hn : m.next a = some m')
    (hph : m'.phase = .draining) : m.phase = .draining ∨ a = .onAmxxDetach := by
  obtain ⟨-, hs⟩ := run_reachable hrun
  obtain ⟨hstep, -⟩ := next_refines (N := Phase.IsLive) (run_records hrun).flags hs
    (fun _ hp => hp.isLive hs) (Or.inl rfl) hn
  rcases hstep with hops | ⟨-, -, hending⟩
  · exact Or.inl (hops.phase.symm.trans hph)
  · cases next_fires hn with
    | onAmxxDetach => exact Or.inr rfl
    | drained => simp at hph
    | exit => simp at hph
    | teardown order m' hstack hdown => cases hdown <;> simp at hph
    | _ => simp [Action.isEnding] at hending

/-- In the drain loop only idle handles are destroyed. -/
theorem Destroys.idle (hd : m.Destroys h o a) (hph : m.phase = .draining) :
    (m.obj o).isTransferInProgress = false := by
  cases a with
  | easyCleanup => exact hd.2
  | sweep => exact hd.2.2
  | teardown =>
      obtain ⟨actor, todo, hclear⟩ := hd
      rw [hph] at hclear
      simp at hclear
  | _ => exact hd.elim

/-- A step in the drain loop keeps transfers interrupted, unless it begins one that is not. -/
theorem Touch.interrupted {y : AmxCurl} (ht : Touch m a o y) (hc : m.StartsInterrupted a)
    (hph : m.phase = .draining)
    (hx : (m.obj o).isTransferInProgress = true → (m.obj o).interrupt = true)
    (hy : y.isTransferInProgress = true) : y.interrupt = true := by
  cases ht with
  | start h fun_ dataLen ha hidle =>
      rw [ha] at hc
      exact hc hph rfl o hidle
  | notAdded => simp [AmxCurl.settle] at hy
  | removed => simp [AmxCurl.settle] at hy
  | gone => rfl
  | detach => rfl
  | defer => rfl
  | reset h ha hidle =>
      have hy : (m.obj o).isTransferInProgress = true := hy
      rw [hidle.2] at hy
      exact absurd hy Bool.false_ne_true
  | destroyed h hh hd =>
      have hbusy : (m.obj o).isTransferInProgress = true := by
        revert hy
        cases m.valid o <;> exact id
      rw [hd.idle hph] at hbusy
      exact absurd hbusy Bool.false_ne_true
  | _ => exact hx hy

theorem run_interrupted (hrun : machine.Run StartsInterrupted tr m) (hph : m.phase = .draining)
    (o : ObjId) (hbusy : (m.obj o).isTransferInProgress = true) : (m.obj o).interrupt = true := by
  refine hrun.history (P := fun _ m => m.phase = .draining → (m.obj o).isTransferInProgress = true →
    (m.obj o).interrupt = true) (fun hph => absurd hph (by simp [machine, boot])) ?_ hph hbusy
  intro tr m a m' hr ih hc hn hph' hbusy'
  rw [next_obj hn] at hbusy' ⊢
  rcases next_draining hr.free hn hph' with hph | ha
  · rcases m.after_touch a o with ht | ⟨-, b, reply, q, e, -, hnew⟩
    · exact ht.interrupted hc hph (ih hph) hbusy'
    · rw [hnew] at hbusy'
      simp [AmxCurl.new] at hbusy'
  · rw [ha]
    rfl

/-! ### Which handles are not interrupted -/

/-- The step, one in the drain loop, makes the object, resets it or destroys it. -/
def Exempts (m : AmxCurlController) (o : ObjId) (a : Action) : Prop :=
  m.phase = .draining ∧ (o = m.objs.next ∧ (∃ b reply, a = .easyInit b reply) ∨
    (∃ h, a = .easyReset h ∧ m.Idle h o) ∨ ∃ h, m.Destroys h o a)

/-- **In the drain loop a handle is interrupted unless the loop has made or reset it.** -/
theorem run_spared (hrun : machine.Run Machine.Free tr m) (hph : m.phase = .draining)
    (hoff : (m.obj o).interrupt = false) :
    ∃ t₁ a t₂ m₁, tr = t₁ ++ a :: t₂ ∧ machine.Run Machine.Free t₁ m₁ ∧ m₁.Exempts o a := by
  refine hrun.history (P := fun tr m => m.phase = .draining → (m.obj o).interrupt = false →
    ∃ t₁ a t₂ m₁, tr = t₁ ++ a :: t₂ ∧ machine.Run Machine.Free t₁ m₁ ∧ m₁.Exempts o a)
    (fun hph => absurd hph (by simp [machine, boot])) ?_ hph hoff
  intro tr m a m' hr ih _ hn hph' hoff'
  rw [next_obj hn] at hoff'
  rcases next_draining hr hn hph' with hph | ha
  · by_cases hspare : m.Exempts o a
    · exact ⟨tr, a, [], m, rfl, hr, hspare⟩
    · have hoff : (m.obj o).interrupt = false := by
        rcases m.after_touch a o with ht | ⟨ho, b, reply, q, e, ha, -⟩
        · generalize hy : m.after a o = y at ht hoff'
          cases ht with
          | reset h ha hidle => exact absurd ⟨hph, Or.inr (Or.inl ⟨h, ha, hidle⟩)⟩ hspare
          | destroyed h hh hd => exact absurd ⟨hph, Or.inr (Or.inr ⟨h, hd⟩)⟩ hspare
          | gone => exact absurd hoff' (by simp [AmxCurl.interrupted])
          | detach => exact absurd hoff' (by simp [AmxCurl.interrupted])
          | defer => exact absurd hoff' (by simp [AmxCurl.defer])
          | _ => exact hoff'
        · exact absurd ⟨hph, Or.inl ⟨ho, b, reply, ha⟩⟩ hspare
      obtain ⟨t₁, b, t₂, m₁, he, hrest⟩ := ih hph hoff
      exact ⟨t₁, b, t₂ ++ [a], m₁, by rw [he]; simp, hrest⟩
  · rw [ha] at hoff'
    exact absurd hoff' (by simp [after, AmxCurl.interrupted])

/-- A perform that begins on a handle that is not interrupted is not aborted. -/
theorem next_starts (hn : m.next a = some m') (hall : m'.AllAborting) : m.StartsInterrupted a := by
  cases a with
  | easyPerform h found fun_ dataLen =>
      intro hph hfound o hidle
      subst hfound
      have hobj : m'.obj o = (m.obj o).start (m.performArgs h fun_ dataLen) :=
        (next_obj hn o).trans (if_pos hidle)
      cases next_fires hn with
      | easyPerform _ _ _ _ hp =>
          obtain ⟨hph', hhandles⟩ := m.amxCurlEasyPerform_phase h true fun_ dataLen
          have habort := hall (hph'.trans hph) h o (by rw [hhandles]; exact hidle.1)
            (by rw [hobj]; rfl)
          have hint := habort.interrupt
          rwa [hobj] at hint
  | _ => trivial

/--
**Every transfer in the drain loop is to be aborted iff no perform begins there on a handle
that is not interrupted.**
-/
theorem drain_aborts_iff (hrun : machine.Run Machine.Free tr m) :
    (∀ t₁ t₂ m₁, tr = t₁ ++ t₂ → machine.Run Machine.Free t₁ m₁ → m₁.AllAborting) ↔
      machine.Run StartsInterrupted tr m := by
  refine Machine.Run.always_iff ?_ ?_ hrun
  · intro tr m hr hph h o _ hbusy
    exact aborting (run_interrupted hr hph o hbusy)
  · intro tr m a m' _ _ hn hall
    exact next_starts hn hall

/-- A completion callback in the drain loop retries on a new handle. -/
def retrying : List Action :=
  [.load 7, .easyInit 7 (some 100), .easyPerform 1 true 3 0, .addReturn true, .onAmxxDetach, .poll,
    .postDone 100 42, .socketActionReturn, .readMessage, .removeReturn 5, .easyInit 7 (some 101),
    .easyPerform 2 true 3 0, .addReturn true]

def retried : AmxCurlController := (machine.exec Machine.Free boot retrying).get (by decide)

theorem retry_not_aborted :
    machine.Run Machine.Free retrying retried ∧ retried.phase = .draining ∧
      retried.amxCurl.lookup 2 = some 1 ∧ (retried.obj 1).isTransferInProgress = true ∧
      (retried.obj 1).interrupt = false ∧ ¬retried.AllAborting := by
  have hrun : machine.Run Machine.Free retrying retried :=
    Machine.run_of_exec (Option.some_get _).symm
  refine ⟨hrun, by decide, by decide, by decide, by decide, ?_⟩
  intro hall
  have hint := (hall (by decide) 2 1 (by decide) (by decide)).interrupt
  exact absurd hint (by decide)

/-- The callback cleans its handle up instead. -/
def yielding : List Action :=
  [.load 7, .easyInit 7 (some 100), .easyPerform 1 true 3 0, .addReturn true, .onAmxxDetach, .poll,
    .postDone 100 42, .socketActionReturn, .readMessage, .removeReturn 5, .easyCleanup 1,
    .pawnReturn 0]

def yielded : AmxCurlController := (machine.exec Machine.Free boot yielding).get (by decide)

theorem drain_aborts_iff_yielded :
    (∀ t₁ t₂ m₁, yielding = t₁ ++ t₂ → machine.Run Machine.Free t₁ m₁ → m₁.AllAborting) ↔
      machine.Run StartsInterrupted yielding yielded :=
  drain_aborts_iff (Machine.run_of_exec (Option.some_get _).symm)

end AmxCurlController

end AmxxCurl
