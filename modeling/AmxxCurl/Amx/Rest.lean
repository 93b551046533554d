/-
A deferred cleanup always comes through.

`curl_easy_cleanup` of a handle in flight only leaves a mark, and so does one from inside
the handle's own completion.  What the mark promises rests on three parties: libcurl has to
be done with the transfer, `PerformComplete` to clear the flag the sweep looks at, and a
frame to sweep.  Here a run that the module survives is led to rest: the calls return, the
transfers end, and one sweep destroys exactly the handles that are marked.  No plugin has
to do anything for it, so no state has a handle that only its plugin could free, and no
handle is lost that was not given up.
-/
import AmxxCurl.Amx.Handles
import AmxxCurl.Amx.Objects
import AmxxCurl.Amx.Shutdown

namespace AmxxCurl

namespace AmxCurlController

variable {m m' : AmxCurlController} {tr : List Action} {a : Action} {o : ObjId} {h : AmxCurlHandle}

/-! ### What a return leaves alone -/

/-- The handles are what they were, and so is what has been asked to be cleaned up. -/
structure SameHandles (m m' : AmxCurlController) : Prop where
  numbers : SameNumbers m m'
  deferred : ∀ o, (m'.obj o).cleanupDeferred = (m.obj o).cleanupDeferred

theorem SameHandles.refl (m : AmxCurlController) : SameHandles m m := ⟨.refl m, fun _ => rfl⟩

theorem SameHandles.trans {m'' : AmxCurlController} (h : SameHandles m m')
    (h' : SameHandles m' m'') : SameHandles m m'' :=
  ⟨h.numbers.trans h'.numbers, fun o => (h'.deferred o).trans (h.deferred o)⟩

theorem after_deferred (ha : a.isReturn = true) (o : ObjId) :
    (m.after a o).cleanupDeferred = (m.obj o).cleanupDeferred := by
  cases a with
  | addReturn ok =>
      unfold after
      dsimp only
      repeat' split
      all_goals rfl
  | removeReturn f =>
      unfold after
      dsimp only
      repeat' split
      all_goals rfl
  | _ => first | rfl | exact absurd ha (by simp [Action.isReturn])

/-- Calls that return and transfers that end neither make a handle nor lose one. -/
theorem next_sameHandles (ha : a.isReturn = true) (hn : m.next a = some m') : SameHandles m m' := by
  refine ⟨?_, fun o => ?_⟩
  · cases next_fires hn with
    | addReturn => exact SameNumbers.pop .performAdded
    | removeReturn => exact SameNumbers.pop .performRemoved
    | readMessage => exact .checkMultiInfo
    | checkMultiInfoReturn => exact ⟨rfl, rfl⟩
    | completionReturn => exact ⟨rfl, rfl⟩
    | dataCallbackReturn => exact SameNumbers.pop .dataCallbackReturn
    | postDone => exact ⟨rfl, rfl⟩
    | socketActionReturn => exact ⟨rfl, rfl⟩
    | poll => exact ⟨rfl, rfl⟩
    | _ => exact absurd ha (by simp [Action.isReturn])
  · rw [next_obj hn]
    exact after_deferred ha o

/-! ### The sweep at the end -/

theorem after_sweep_idle (order : List AmxCurlHandle) (o : ObjId) :
    (m.after (.sweep order) o).isTransferInProgress = (m.obj o).isTransferInProgress := by
  unfold after
  dsimp only
  split
  · unfold AmxCurl.destroyed
    split <;> rfl
  · rfl

/-- With nothing in flight the sweep destroys the marked handles, and no others. -/
theorem sweep_exact {order : List AmxCurlHandle} (ho : m.Walks order)
    (hidle : ∀ h o, m.amxCurl.lookup h = some o → (m.obj o).isTransferInProgress = false)
    (hh : m.amxCurl.lookup h = some o) :
    ((m.obj o).cleanupDeferred = true → (m.sweepDeferredCleanups order).amxCurl.lookup h = none ∧
      h ∈ (m.sweepDeferredCleanups order).freeHandles) ∧
    ((m.obj o).cleanupDeferred = false →
      (m.sweepDeferredCleanups order).amxCurl.lookup h = some o) := by
  obtain ⟨hs, hback, -, hleft⟩ := sweep_givesBack (m := m) order
  have hmem : h ∈ order := by
    rw [← List.mem_toFinset, ho.2]
    exact Finmap.mem_keys.mpr (Finmap.mem_of_lookup_eq_some hh)
  have hlookup := hback.amxCurl h
  constructor
  · intro hmark
    by_cases hgone : h ∈ hs
    · rw [if_pos hgone] at hlookup
      rw [hback.freeHandles]
      exact ⟨hlookup, List.mem_append_right _ hgone⟩
    · rw [if_neg hgone, hh] at hlookup
      exact absurd ⟨hmark, hidle h o hh⟩ (hleft h hmem o hlookup)
  · intro hmark
    by_contra hlost
    -- what a sweep destroys was marked when it began
    obtain ⟨-, hdeferred, -⟩ := sweep_lost hh hlost
    rw [hmark] at hdeferred
    exact absurd hdeferred Bool.false_ne_true

/-! ### Rest -/

/--
**The module can always come to rest, and a deferred cleanup comes through.**  As long as it
runs, any run can be continued by calls that return, transfers that end, handlers that run
and one sweep, with no native, to where nothing is under way.  Then every perform that
libcurl had accepted has been completed, once; the handles whose cleanup was asked for are
destroyed and their numbers given back; and all others are there, with no transfer.
-/
theorem rest_possible (hrun : machine.Run Machine.Free tr m) (hph : m.phase = .running) :
    ∃ tr' order m', (∀ a ∈ tr', a.isReturn = true) ∧
      machine.Run Machine.Free (tr ++ tr' ++ [.sweep order]) m' ∧
      m'.phase = .running ∧ m'.stack = [] ∧ m'.messages = [] ∧
      (∀ p, .accepted p ∈ m.log → m'.log.countP (Event.isCompletion p) = 1) ∧
      ∀ h o, m.amxCurl.lookup h = some o →
        ((m.obj o).cleanupDeferred = true →
          m'.amxCurl.lookup h = none ∧ h ∈ m'.freeHandles) ∧
        ((m.obj o).cleanupDeferred = false →
          m'.amxCurl.lookup h = some o ∧ (m'.obj o).isTransferInProgress = false) := by
  have hsettle : machine.Reaches Machine.Free (·.isReturn = true)
      (fun s => (s.phase = .running ∧ s.AllPosted) ∧ s.AtEase) tr := by
    refine (reaches_allPosted hrun).trans fun t₁ m₁ hr₁ ⟨hph₁, hall₁⟩ => ?_
    refine (reaches_atEase hr₁ hall₁).mono fun s ⟨⟨hphase, hall⟩, hease⟩ => ⟨⟨?_, hall⟩, hease⟩
    rw [hphase, hph₁, hph]
  obtain ⟨tr', s, hA, hr, hsame, ⟨hphase, hall⟩, hease⟩ :=
    hsettle.keeping hrun (SameHandles.refl m) fun _ _ _ _ _ hI ha _ hn => hI.trans (next_sameHandles ha hn)
  obtain ⟨hdone, hcompleted⟩ := settled_at_ease hr (Or.inl hphase) hall hease
  have hidle : ∀ h o, s.amxCurl.lookup h = some o → (s.obj o).isTransferInProgress = false := by
    intro h o hh
    have hflag := of_decide_eq_true hcompleted h ?_ o hh
    · exact hflag
    · exact Finmap.mem_keys.mpr (Finmap.mem_of_lookup_eq_some hh)
  have horder := s.walks_toList
  have hn : s.next (.sweep s.amxCurl.keys.toList) =
      some (s.sweepDeferredCleanups s.amxCurl.keys.toList) := by
    simp only [next]
    exact if_pos ⟨hease.1, hphase, horder⟩
  have hfinal : machine.Run Machine.Free (tr ++ tr' ++ [.sweep s.amxCurl.keys.toList])
      (s.sweepDeferredCleanups s.amxCurl.keys.toList) := .snoc hr trivial hn
  refine ⟨tr', _, _, hA, hfinal, ?_, ?_, ?_, fun p hp => ?_, fun h o hh => ?_⟩
  · rw [← hphase]
    exact (sweepDeferredCleanups_ops (N := (· = .running)) hphase).phase
  · exact Offstage.sweepDeferredCleanups.stack.trans hease.1
  · exact SameLine.sweepDeferredCleanups.messages.trans (hease.2 (Or.inl hphase))
  · exact completed_once (run_regular hfinal) (run_completed_mono hr hfinal
      (hdone p (run_log_mono hrun hr rfl hp)))
  · rw [← hsame.numbers.1] at hh
    rw [← hsame.deferred o, next_obj hn, after_sweep_idle]
    obtain ⟨hgone, hkept⟩ := sweep_exact horder hidle hh
    exact ⟨hgone, fun hmark => ⟨hkept hmark, hidle h o hh⟩⟩

/-- The first handle is given up inside the callbacks of both. -/
def givingUp : List Action := nesting ++ [.easyCleanup 1]

def givenUp : AmxCurlController := (machine.exec Machine.Free boot givingUp).get (by decide)

theorem rest_possible_given_up : ∃ tr' order m', (∀ a ∈ tr', a.isReturn = true) ∧
    machine.Run Machine.Free (givingUp ++ tr' ++ [.sweep order]) m' ∧ m'.stack = [] ∧
    m'.amxCurl.lookup 1 = none ∧ 1 ∈ m'.freeHandles ∧ m'.amxCurl.lookup 2 = some 1 := by
  have hrun : machine.Run Machine.Free givingUp givenUp :=
    Machine.run_of_exec (Option.some_get _).symm
  obtain ⟨tr', order, m', hA, hr, -, hs, -, -, hhandles⟩ := rest_possible hrun (by decide)
  obtain ⟨hgone, hfree⟩ := (hhandles 1 0 (by decide)).1 (by decide)
  obtain ⟨hkept, -⟩ := (hhandles 2 1 (by decide)).2 (by decide)
  exact ⟨tr', order, m', hA, hr, hs, hgone, hfree, hkept⟩

end AmxCurlController

end AmxxCurl
