/-
A transfer that has been stopped.

`curl_easy_cleanup` of a handle in flight, `OnAmxxDetach`, and a data callback that finds
its plugin gone set the flag `interrupt_` and leave the rest to libcurl, which has to be
told to abort the next time it calls.  Here is what that comes to: as long as the transfer
is in progress nothing takes the flag back, so every callback answers with the abort value
of its option at once, no Pawn code is given data any more, and the body does not grow.
`CurlReset` is what would clear it, and the destructors of a plugin's handle; the one is
refused in flight and the other is put off.
-/
import AmxxCurl.Amx.Nesting
import AmxxCurl.Amx.Objects
import AmxxCurl.Lib.Progress

namespace AmxxCurl

namespace AmxCurlController

variable {m m₀ m₁ m' : AmxCurlController} {a : Action} {o : ObjId} {h : AmxCurlHandle}

/-! ### The flag while the transfer lasts -/

/-- An object in flight is destroyed in the teardown only, when no plugin can be asked. -/
theorem Destroys.invalid (hr : Transfers.Records m.transfers) (hd : m.Destroys h o a)
    (hbusy : (m.obj o).isTransferInProgress = true) : m.valid o = false := by
  cases a with
  | easyCleanup => exact absurd hd.2 (by simp [hbusy])
  | sweep => exact absurd hd.2.2 (by simp [hbusy])
  | teardown =>
      obtain ⟨actor, todo, hph⟩ := hd
      have hflags := hr.flags
      unfold Transfers.Flags at hflags
      rw [show m.transfers.phase = .clearing actor (h :: todo) from hph] at hflags
      have hdetached : m.isDetached = true := hflags.1
      unfold valid
      rw [hdetached]
      rfl
  | _ => exact hd.elim

/-- What a step does to a transfer that is interrupted and goes on. -/
theorem after_interrupted (hr : Transfers.Records m.transfers)
    (hint : (m.obj o).interrupt = true) (hbusy : (m.obj o).isTransferInProgress = true)
    (hbusy' : (m.after a o).isTransferInProgress = true) :
    (m.after a o).interrupt = true ∧
      (m.after a o).responseBody <+: (m.obj o).responseBody := by
  rcases m.after_touch a o with ht | ⟨-, b, reply, q, e, -, hnew⟩
  · generalize hy : m.after a o = y at ht hbusy'
    cases ht with
    | clearBody => exact ⟨hint, List.nil_prefix⟩
    | notAdded => simp [AmxCurl.settle] at hbusy'
    | removed => simp [AmxCurl.settle] at hbusy'
    | capture chunk ha =>
        -- an interrupted object captures nothing
        have hsame : m.after a o = m.obj o := by
          rw [ha]
          unfold after answered
          dsimp only
          rw [if_pos rfl, if_pos hint]
        rw [← hy, hsame]
        exact ⟨hint, List.prefix_refl _⟩
    | gone => exact ⟨rfl, List.prefix_refl _⟩
    | detach => exact ⟨rfl, List.prefix_refl _⟩
    | defer => exact ⟨rfl, List.prefix_refl _⟩
    | reset h ha hidle =>
        rw [hidle.2] at hbusy
        exact absurd hbusy Bool.false_ne_true
    | destroyed h hh hd =>
        rw [hd.invalid hr hbusy]
        exact ⟨hint, List.nil_prefix⟩
    | _ => exact ⟨hint, List.prefix_refl _⟩
  · rw [hnew] at hbusy'
    simp [AmxCurl.new] at hbusy'

/-! ### The Pawn code that is given data -/

/-- How much of that is on the stack. -/
def dataFrames (m : AmxCurlController) (o : ObjId) : Nat := m.stack.countP (Frame.isDataOf o)

/-- Whatever libcurl calls on an interrupted object returns at once. -/
theorem callback_interrupted (hint : (m.obj o).interrupt = true) (k : Callback) :
    m.callback o k = m.emit [.returned o k.option (interruptCode k.option)] := by
  cases k with
  | write chunk => exact if_pos hint
  | _ => exact if_pos hint

/-- With the plugin gone there is no Pawn code to call. -/
theorem callback_gone (hgone : m.valid o = false) (k : Callback) :
    (m.callback o k).dataFrames o = m.dataFrames o := by
  have hasked : Offstage m (m.isAmxValid o).1 := .isAmxValid
  have hanswer : (m.isAmxValid o).2 = false := isAmxValid_valid.trans hgone
  have hdata : ∀ c u i, (m.dataCallback o c u i).stack = m.stack := by
    intro c u i
    unfold dataCallback
    repeat' split
    · rfl
    · rfl
    · rename_i m₁ he
      rw [he] at hasked
      exact hasked.stack
    · rename_i m₁ he
      rw [he] at hanswer
      exact absurd hanswer Bool.true_eq_false_eq_False
  refine congrArg (List.countP (Frame.isDataOf o)) ?_
  cases k with
  | write chunk =>
      show (m.writeCallback o chunk).stack = m.stack
      unfold writeCallback captureBody
      repeat' split
      all_goals first
        | rfl
        | (rename_i m₁ he
           rw [he] at hasked
           exact hasked.stack)
        | (rename_i m₁ he
           rw [he] at hanswer
           exact absurd hanswer Bool.true_eq_false_eq_False)
  | _ => exact hdata _ _ _

/-- No other step calls the Pawn code of a data callback. -/
theorem next_dataFrames (hn : m.next a = some m')
    (hsilent : ∀ k, a = .callback o k → (m.callback o k).dataFrames o = m.dataFrames o) :
    m'.dataFrames o ≤ m.dataFrames o := by
  have hstack := next_restacks hn
  unfold dataFrames
  generalize m'.stack = s at hstack
  cases hstack with
  | same => exact Nat.le_refl _
  | adding => exact Nat.le_of_eq (List.countP_cons_of_neg Bool.false_ne_true)
  | dataCallback o' k c q n hl hc =>
      by_cases ho : o' = o
      · subst ho
        have hsame := hsilent k rfl
        unfold dataFrames at hsame
        rw [hc] at hsame
        exact Nat.le_of_eq hsame
      · exact Nat.le_of_eq (List.countP_cons_of_neg (by simpa [Frame.isDataOf] using ho))
  | removing => exact Nat.le_of_eq (List.countP_cons_of_neg Bool.false_ne_true)
  | popped _ f rest hs =>
      rw [hs, List.countP_cons]
      exact Nat.le_add_right ..
  | completion g o' p res rest b q data hs =>
      rw [hs, List.countP_cons_of_neg Bool.false_ne_true]
      exact Nat.le_of_eq (List.countP_cons_of_neg Bool.false_ne_true).symm
  | loop rest hs =>
      rw [hs, List.countP_cons_of_neg Bool.false_ne_true]
      exact Nat.le_of_eq (List.countP_cons_of_neg Bool.false_ne_true).symm
  | handler hs =>
      rw [hs]
      exact Nat.le_refl _

/-! ### From the step that stops it on -/

/-- The transfer of the object is interrupted; since `m₀` nothing has reached its plugin. -/
structure Silenced (o : ObjId) (m₀ m : AmxCurlController) : Prop where
  interrupt : (m.obj o).interrupt = true
  body : (m.obj o).responseBody <+: (m₀.obj o).responseBody
  frames : m.dataFrames o ≤ m₀.dataFrames o

theorem Silenced.next (hs : Silenced o m₀ m) (hr : Transfers.Records m.transfers)
    (hn : m.next a = some m') (hbusy : (m.obj o).isTransferInProgress = true)
    (hbusy' : (m'.obj o).isTransferInProgress = true) : Silenced o m₀ m' := by
  rw [next_obj hn] at hbusy'
  obtain ⟨hint, hbody⟩ := after_interrupted hr hs.interrupt hbusy hbusy'
  refine ⟨?_, ?_, Nat.le_trans (next_dataFrames hn fun k _ => ?_) hs.frames⟩
  · rw [next_obj hn]
    exact hint
  · rw [next_obj hn]
    exact hbody.trans hs.body
  · rw [callback_interrupted hs.interrupt]
    rfl

/-- `curl_easy_cleanup`, `OnAmxxDetach`, and a callback that finds its plugin gone. -/
def Stops (m : AmxCurlController) (o : ObjId) : Action → Prop
  | .easyCleanup h => m.amxCurl.lookup h = some o
  | .onAmxxDetach => True
  | .callback o' k => o' = o ∧ m.valid o = false ∧
      ((m.obj o).registeredCallbacks k.option).isSome = true
  | _ => False

theorem Stops.next (hstop : m.Stops o a) (hn : m.next a = some m')
    (hbusy : (m'.obj o).isTransferInProgress = true) : Silenced o m m' := by
  have hafter : (m.after a o).interrupt = true ∧
      (m.after a o).responseBody = (m.obj o).responseBody := by
    rw [next_obj hn] at hbusy
    cases a with
    | easyCleanup h =>
        unfold after at hbusy ⊢
        dsimp only at hbusy ⊢
        split
        · rename_i hidle
          rw [if_pos hidle] at hbusy
          have hflight : (m.obj o).isTransferInProgress = true := by
            revert hbusy
            cases m.valid o <;> exact id
          rw [hidle.2] at hflight
          exact absurd hflight Bool.false_ne_true
        · rw [if_pos (show m.amxCurl.lookup h = some o from hstop)]
          exact ⟨rfl, rfl⟩
    | onAmxxDetach => exact ⟨rfl, rfl⟩
    | callback o' k =>
        obtain ⟨rfl, hgone, hsome⟩ := hstop
        obtain ⟨f, hf⟩ := Option.isSome_iff_exists.mp hsome
        unfold after answered
        dsimp only
        rw [if_pos rfl, hf]
        dsimp only
        rw [hgone, if_neg Bool.false_ne_true]
        split
        · rename_i hint
          exact ⟨hint, rfl⟩
        · exact ⟨rfl, rfl⟩
    | _ => exact hstop.elim
  refine ⟨?_, ?_, next_dataFrames hn fun k ha => ?_⟩
  · rw [next_obj hn]
    exact hafter.1
  · rw [next_obj hn, hafter.2]
  · subst ha
    exact callback_gone hstop.2.1 k

/--
**A transfer that has been stopped is silent for as long as it lasts.**  From the step that
stops it on, and while it is in progress in every state on the way, its plugin is given no
more data and its body does not grow; and the next callback libcurl makes, whichever it is,
returns the abort value of its option and does nothing else.
-/
theorem stopped_silent {t₁ t₂ : List Action} {m₂ : AmxCurlController}
    (h₀ : machine.Run Machine.Free t₁ m) (hstop : m.Stops o a)
    (h : machine.Run Machine.Free (t₁ ++ [a] ++ t₂) m₂)
    (hbusy : ∀ t s, t <+: t₂ → machine.Run Machine.Free (t₁ ++ [a] ++ t) s →
      (s.obj o).isTransferInProgress = true) :
    (m₂.obj o).responseBody <+: (m.obj o).responseBody ∧ m₂.dataFrames o ≤ m.dataFrames o ∧
      ∀ k m', m₂.next (.callback o k) = some m' →
        m' = m₂.emit [.returned o k.option (interruptCode k.option)] := by
  obtain ⟨m₁, h₁⟩ := h.prefix_run
  obtain ⟨m', hr', -, hn⟩ := h₁.last
  obtain rfl := hr'.unique h₀
  have hbusy₁ : (m₁.obj o).isTransferInProgress = true :=
    hbusy [] m₁ List.nil_prefix (by rw [List.append_nil]; exact h₁)
  have hend : Silenced o m' m₂ := by
    refine h₁.kept_while (hstop.next hn hbusy₁) ?_ h hbusy
    exact fun _ _ _ _ hr hs hb hb' hn => hs.next (run_records hr) hn hb hb'
  refine ⟨hend.body, hend.frames, fun k m₃ hn₃ => ?_⟩
  cases next_fires hn₃ with
  | callback o k hl he => exact callback_interrupted hend.interrupt k

/-- A header callback gives its handle up, and another chunk of the body comes. -/
def abandoning : List Action :=
  [.load 7, .easyInit 7 (some 100), .setCallback 1 (some .headerFunction) (some 5) (0, 0),
    .easyPerform 1 true 3 0, .addReturn true, .poll, .callback 0 (.write [1, 2]),
    .callback 0 (.header 9)]

def abandoned : AmxCurlController := (machine.exec Machine.Free boot abandoning).get (by decide)

def abandonedFirst : AmxCurlController :=
  (machine.exec Machine.Free boot (abandoning ++ [.easyCleanup 1])).get (by decide)

def abandonedFurther : AmxCurlController :=
  (machine.exec Machine.Free boot (abandoning ++ [.easyCleanup 1] ++ [.pawnReturn 9])).get (by decide)

theorem stopped_silent_abandoned :
    (abandonedFurther.obj 0).responseBody <+: [1, 2] ∧
    abandonedFurther.dataFrames 0 ≤ abandoned.dataFrames 0 ∧
    ∀ m', abandonedFurther.next (.callback 0 (.write [3])) = some m' →
      m' = abandonedFurther.emit [.returned 0 .writeFunction 0] := by
  have h₀ : machine.Run Machine.Free abandoning abandoned :=
    Machine.run_of_exec (Option.some_get _).symm
  have h : machine.Run Machine.Free (abandoning ++ [.easyCleanup 1] ++ [.pawnReturn 9])
      abandonedFurther := Machine.run_of_exec (Option.some_get _).symm
  have hstop : abandoned.Stops 0 (.easyCleanup 1) := by
    show abandoned.amxCurl.lookup 1 = some 0
    decide
  have hbusy : ∀ t s, t <+: [Action.pawnReturn 9] →
      machine.Run Machine.Free (abandoning ++ [.easyCleanup 1] ++ t) s →
      (s.obj 0).isTransferInProgress = true := by
    intro t s ht hs
    rcases List.prefix_cons_iff.mp ht with rfl | ⟨t', rfl, ht'⟩
    · have h₁ : machine.Run Machine.Free (abandoning ++ [.easyCleanup 1] ++ []) abandonedFirst :=
        Machine.run_of_exec (Option.some_get _).symm
      rw [hs.unique h₁]
      decide
    · obtain rfl := List.prefix_nil.mp ht'
      rw [hs.unique h]
      decide
  have hbody : (abandoned.obj 0).responseBody = [1, 2] := by decide
  obtain ⟨hpre, hframes, hsilent⟩ := stopped_silent h₀ hstop h hbusy
  rw [hbody] at hpre
  exact ⟨hpre, hframes, hsilent (.write [3])⟩

end AmxCurlController

end AmxxCurl
