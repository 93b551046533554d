/-
Completions run in the order libcurl is done with the transfers.

A DONE is queued by libcurl, read by the loop of `CheckMultiInfo`, inside
`curl_multi_remove_handle` for a while, and completed.  `line` lists the performs at
these stations, from the last to the first, and is what libcurl has posted, in the order
it has.  Nothing that plugins do in between moves it: they create, perform, reset and
clean up handles from any callback, and a message leaves the queue for one reason only.

The order rests on the shape of the stack.  A message is read with nothing above the
loop, so no completion is under way when the next one begins.
-/
import AmxxCurl.Amx.Completion
import AmxxCurl.Amx.Nesting

namespace AmxxCurl

namespace AmxCurlController

/-- The perform an event is the completion of. -/
def Event.completes : Event → Option PerformId
  | .completed p _ => some p
  | _ => none

/-- The perform whose completion waits for `curl_multi_remove_handle`. -/
def Frame.completes : Frame → Option PerformId
  | .removing _ p _ => some p
  | _ => none

variable {m m' m'' : AmxCurlController} {o : ObjId} {h : AmxCurlHandle}

/-- The performs that have been completed, the first one first. -/
def completed (m : AmxCurlController) : List PerformId := m.log.filterMap Event.completes

/-- The performs libcurl is done with, by how far they have got. -/
def line (m : AmxCurlController) : List PerformId :=
  m.completed ++ (m.stack.filterMap Frame.completes ++ m.messages.map (·.2.1))

/-- The line is what was posted, and until the flag is set all of it. -/
structure InOrder (m : AmxCurlController) : Prop where
  sublist : m.line.Sublist m.posted.reverse
  exact : m.isDetached = false → m.line = m.posted.reverse

/-! ### What leaves the line alone -/

/-- No message comes or goes, and no completion runs. -/
structure SameLine (m m' : AmxCurlController) : Prop where
  messages : m'.messages = m.messages
  posted : m'.posted = m.posted
  completed : m'.completed = m.completed
  isDetached : m'.isDetached = m.isDetached

namespace SameLine

theorem refl (m : AmxCurlController) : SameLine m m := ⟨rfl, rfl, rfl, rfl⟩

theorem trans (h : SameLine m m') (h' : SameLine m' m'') : SameLine m m'' :=
  ⟨h'.messages.trans h.messages, h'.posted.trans h.posted, h'.completed.trans h.completed,
    h'.isDetached.trans h.isDetached⟩

/-- Events that are no completions are added. -/
theorem logs (es : List Event) (hlog : m'.log = m.log ++ es) (hes : ∀ e ∈ es, e.completes = none)
    (hmsg : m'.messages = m.messages) (hposted : m'.posted = m.posted)
    (hd : m'.isDetached = m.isDetached) : SameLine m m' := by
  refine ⟨hmsg, hposted, ?_, hd⟩
  have hnone : es.filterMap Event.completes = [] := List.filterMap_eq_nil_iff.mpr hes
  unfold AmxCurlController.completed
  rw [hlog, List.filterMap_append, hnone, List.append_nil]

theorem emit {es : List Event} (hes : ∀ e ∈ es, e.completes = none) : SameLine m (m.emit es) :=
  logs _ rfl hes rfl rfl rfl

theorem mf {c : MfCall} : SameLine m (m.mf c) := emit (by simp [Event.completes])

theorem libcurl {c : LibCall} : SameLine m (m.libcurl c) := emit (by simp [Event.completes])

theorem deleteData {d : Option DataId} : SameLine m (m.deleteData d) := by
  refine emit fun e he => ?_
  obtain ⟨d', -, rfl⟩ := List.mem_map.mp he
  rfl

/-- Callbacks and options. -/
theorem minor (h : Minor m m') : SameLine m m' := by
  induction h with
  | refl => exact .refl m
  | emit _ hes ih =>
      refine ih.trans (emit fun e he => ?_)
      have hminor := hes e he
      cases e with
      | completed p args => exact absurd hminor (by simp [Event.isMinor])
      | _ => rfl
  | setObj _ _ ih => exact ih.trans ⟨rfl, rfl, rfl, rfl⟩
  | amxx _ x ih => exact ih.trans ⟨rfl, rfl, rfl, rfl⟩
  | push _ o c q n ih => exact ih.trans ⟨rfl, rfl, rfl, rfl⟩

theorem destroyAmxCurl : SameLine m (m.destroyAmxCurl o) := by
  have hcleaned : SameLine m (m.cleanedUp o) :=
    (deleteData.trans libcurl).trans ⟨rfl, rfl, rfl, rfl⟩
  have hvalid : SameLine (m.cleanedUp o) ((m.cleanedUp o).isAmxValid o).1 := minor .isAmxValid
  rw [destroyAmxCurl_eq]
  split
  · exact (hcleaned.trans hvalid).trans (minor .resetAmxCallbacks)
  · exact (hcleaned.trans hvalid).trans ⟨rfl, rfl, rfl, rfl⟩

/-- An object is destroyed after it has left the tables. -/
theorem destroyed (h : SameLine m m') : SameLine m (m'.destroyAmxCurl o) := h.trans destroyAmxCurl

theorem createCurl {a : AmxPtr} {p : PluginId} {reply : Option CurlPtr} :
    SameLine m (m.createCurl a p reply) := by
  cases reply with
  | none =>
      have hlost : SameLine m { m with freeHandles := m.getCurlHandle.2 } := ⟨rfl, rfl, rfl, rfl⟩
      rcases m.createCurl_lost a p with heq | ⟨-, heq⟩ <;> rw [heq]
      · exact hlost
      · exact hlost.trans mf
  | some e =>
      have hmade : SameLine m (m.made a p e) := by
        refine logs _ rfl (fun e' he => ?_) rfl rfl rfl
        obtain ⟨c, rfl⟩ := libcurl_bindCallback he
        rfl
      cases ho : m.amxCurl.lookup m.getCurlHandle.1 with
      | none =>
          rw [createCurl_new ho]
          exact hmade.trans ⟨rfl, rfl, rfl, rfl⟩
      | some o' =>
          rw [createCurl_taken ho]
          exact hmade.destroyed

theorem removeTask : SameLine m (m.removeTask h) := by
  unfold AmxCurlController.removeTask
  split
  · exact mf
  · split
    · exact mf.trans ⟨rfl, rfl, rfl, rfl⟩
    · exact destroyed ⟨rfl, rfl, rfl, rfl⟩

theorem curlReset : SameLine m (m.curlReset h) := by
  unfold AmxCurlController.curlReset
  split
  · exact mf
  · split
    · exact mf
    · refine (minor .resetAmxCallbacks).trans (emit fun e he => ?_)
      obtain ⟨c, rfl⟩ := libcurl_bindCallback he
      rfl

theorem sweepDeferredCleanups {order : List AmxCurlHandle} :
    SameLine m (m.sweepDeferredCleanups order) := by
  unfold AmxCurlController.sweepDeferredCleanups
  induction order generalizing m with
  | nil => exact .refl m
  | cons h order ih =>
      have hone : SameLine m (m.sweepOne h) := by
        unfold AmxCurlController.sweepOne
        split
        · exact .refl m
        · split
          · exact destroyed ⟨rfl, rfl, rfl, rfl⟩
          · exact .refl m
      exact hone.trans ih

theorem amxCurlEasyPerform {found : Bool} {fun_ dataLen : Int} :
    SameLine m (m.amxCurlEasyPerform h found fun_ dataLen) := by
  have hperform : ∀ (m₁ : AmxCurlController) (o : ObjId) {data : Option DataId},
      SameLine m₁ (m₁.perform o h found fun_ data dataLen) := by
    intro m₁ o data
    unfold perform
    dsimp only
    have hasked : ∀ {c : MfCall}, SameLine m₁ ((m₁.mf c).setObj o fun x =>
        { x with amxCallbackFun := fun_ }) := fun {c} => mf.trans ⟨rfl, rfl, rfl, rfl⟩
    split
    · exact (hasked.trans deleteData).trans mf
    · refine (hasked.trans deleteData).trans (logs [.libcurl (.setopt o),
        .libcurl (.setopt o), .libcurl (.setopt o), .libcurl (.setopt o),
        .libcurl (.addHandle o)] rfl ?_ rfl rfl rfl)
      simp [Event.completes]
  have htask : ∀ (m₁ : AmxCurlController) {data : Option DataId},
      SameLine m₁ (m₁.curlPerformTask h found fun_ data dataLen) := by
    intro m₁ data
    unfold curlPerformTask
    split
    · exact deleteData.trans mf
    · split
      · exact mf.trans deleteData
      · exact hperform m₁ _
  unfold AmxCurlController.amxCurlEasyPerform
  split
  · have hdata : SameLine m { m with nextData := m.nextData + 1 } := ⟨rfl, rfl, rfl, rfl⟩
    exact hdata.trans (htask _)
  · exact htask m

theorem performAdded {p : PerformId} {ok : Bool} : SameLine m (m.performAdded o p ok) := by
  unfold AmxCurlController.performAdded
  dsimp only
  split
  · exact (trans ⟨rfl, rfl, rfl, rfl⟩ (emit (by simp [Event.completes]))).trans
      ⟨rfl, rfl, rfl, rfl⟩
  · exact (((libcurl.trans mf).trans ⟨rfl, rfl, rfl, rfl⟩).trans deleteData).trans
      ⟨rfl, rfl, rfl, rfl⟩

/-- A completion on the way to its plugin. -/
theorem asked {p : PerformId} {q : PluginId} {f : ForwardId} :
    SameLine (m.settled o p) (m.asked o p q f) :=
  mf.trans (mf.trans mf)

theorem completionReturn {a : AmxPtr} {q : PluginId} {f : ForwardId} {data : Option DataId} :
    SameLine m (m.completionReturn a q f data) :=
  deleteData.trans (mf.trans ⟨rfl, rfl, rfl, rfl⟩)

theorem dropEntry : SameLine m (m.dropEntry h) := by
  unfold AmxCurlController.dropEntry
  split
  · exact .refl m
  · exact destroyed ⟨rfl, rfl, rfl, rfl⟩

theorem shutdown : SameLine m m.shutdown := by
  unfold AmxCurlController.shutdown
  split
  · exact libcurl.trans ⟨rfl, rfl, rfl, rfl⟩
  · exact .refl m

/-- After a frame has been taken off the stack. -/
theorem popped {rest : List Frame} (h : SameLine { m with stack := rest } m') : SameLine m m' :=
  ⟨h.messages, h.posted, h.completed, h.isDetached⟩

/-- With the stack the same, too, the order is. -/
theorem inOrder (hs : SameLine m m')
    (hstack : m'.stack.filterMap Frame.completes = m.stack.filterMap Frame.completes)
    (h : InOrder m) : InOrder m' := by
  have hline : m'.line = m.line := by
    unfold line
    rw [hs.completed, hs.messages, hstack]
  refine ⟨?_, fun hd => ?_⟩
  · rw [hline, hs.posted]
    exact h.sublist
  · rw [hline, hs.posted]
    exact h.exact (hs.isDetached ▸ hd)

end SameLine

/-! ### What moves it -/

/-- libcurl has taken an object off the multi, and the messages about it. -/
theorem removeHandle_line (m : AmxCurlController) (o : ObjId) :
    (m.removeHandle o).completed = m.completed ∧
      (m.removeHandle o).messages.Sublist m.messages := by
  refine ⟨?_, List.filter_sublist⟩
  show (m.log ++ [Event.libcurl (.removeHandle o)]).filterMap Event.completes = _
  rw [List.filterMap_append]
  exact List.append_nil _

/-- A completion that leaves `curl_multi_remove_handle` is the next one in the line. -/
theorem performRemoved_line {p : PerformId} {res : CurlCode} {rest : List Frame} {f : ForwardId}
    (hc : Transfers.Counted m.transfers) (hr : Transfers.Records m.transfers)
    (hs : m.stack = .removing o p res :: rest) :
    SameLine ({ m with stack := rest }.settled o p) ({ m with stack := rest }.performRemoved o p f) ∧
    ({ m with stack := rest }.settled o p).messages = m.messages ∧
    ({ m with stack := rest }.settled o p).completed = m.completed ++ [p] := by
  refine ⟨?_, ?_, ?_⟩
  · rcases ({ m with stack := rest } : AmxCurlController).performRemoved_cases o p f with
      ⟨-, heq⟩ | ⟨-, -, heq⟩ | ⟨q, -, -, heq⟩ <;> rw [heq]
    · exact .deleteData
    · exact (SameLine.mf.trans .mf).trans .deleteData
    · exact SameLine.asked.trans ⟨rfl, rfl, rfl, rfl⟩
  · refine List.filter_eq_self.mpr fun msg hmsg => ?_
    have htask : (o, Task.removing p res) ∈ m.transfers.tasks :=
      List.mem_filterMap.mpr ⟨_, hs ▸ List.mem_cons_self .., rfl⟩
    have hne : msg.1 ≠ (m.obj o).curl := by
      rw [← show (m.transfers.obj o).curl = (m.obj o).curl from rfl]
      exact hc.no_message hr htask msg hmsg
    exact bne_iff_ne.mpr hne
  · show ((m.log ++ [Event.libcurl (.removeHandle o)]) ++
      [Event.completed p ⟨(m.obj o).amxCallbackFun, (m.obj o).taskHandle, (m.obj o).amxCallbackData,
        (m.obj o).amxCallbackDataLen⟩]).filterMap Event.completes = _
    rw [List.filterMap_append, List.filterMap_append]
    show m.completed ++ [] ++ [p] = _
    rw [List.append_nil]

/-- The completion of a message in the queue is in `curl_map_`. -/
theorem mapped_of_queued (hc : Transfers.Counted m.transfers) (hr : Transfers.Records m.transfers)
    (hlive : m.phase.IsLive) {e : CurlPtr} {p : PerformId} {res : CurlCode}
    (hmsg : (e, p, res) ∈ m.messages) : (m.curlMap.lookup e).isSome := by
  have hq : m.transfers.attached.lookup e = some p := hr.queued hmsg
  obtain ⟨o, ho⟩ := hr.attachOwner hq
  obtain ⟨hl, rfl⟩ := hr.easy.mp ho
  have hnr : ¬m.transfers.Removing o := fun ⟨p', res', hk⟩ => hc.no_message hr hk _ hmsg rfl
  refine (hr.agree hl).mapped.mpr ⟨?_, hnr, Transfers.not_dropped hlive o⟩
  exact ((hr.agree hl).attached.mp (by rw [hq]; rfl)).1

/-- The first message goes to the end of those that are being completed. -/
theorem checkMultiInfo_inOrder (h : InOrder m) (hc : Transfers.Counted m.transfers)
    (hr : Transfers.Records m.transfers) (hlive : m.phase.IsLive)
    (hs : m.stack = [.checkMultiInfo]) (hm : m.messages ≠ []) : InOrder m.checkMultiInfo := by
  obtain ⟨⟨e, p, res⟩, rest, hmsg⟩ := List.exists_cons_of_ne_nil hm
  have hstack : m.stack.filterMap Frame.completes = [] := by
    rw [hs]
    rfl
  have hline : m.line = m.completed ++ p :: rest.map (·.2.1) := by
    unfold line
    rw [hstack, hmsg]
    rfl
  obtain ⟨o, ho⟩ := Option.isSome_iff_exists.mp
    (mapped_of_queued hc hr hlive (hmsg ▸ List.mem_cons_self ..))
  have hread : m.checkMultiInfo =
      ({ m.libcurl .infoRead with messages := rest } : AmxCurlController).onPerformComplete o p res := by
    unfold checkMultiInfo
    rw [hmsg]
    dsimp only
    rw [show ({ m.libcurl .infoRead with messages := rest } : AmxCurlController).curlMap.lookup e
      = some o from ho]
  have hcompleted : (m.libcurl .infoRead).completed = m.completed := SameLine.libcurl.completed
  have hline' : m.checkMultiInfo.line = m.line := by
    rw [hread, hline]
    show (m.libcurl .infoRead).completed ++ ((Frame.removing o p res :: m.stack).filterMap
      Frame.completes ++ rest.map (·.2.1)) = _
    have hcalling : (Frame.removing o p res :: m.stack).filterMap Frame.completes =
        p :: m.stack.filterMap Frame.completes := rfl
    rw [hcompleted, hcalling, hstack]
    rfl
  refine ⟨?_, fun hd => ?_⟩
  · rw [hline', hread]
    exact h.sublist
  · rw [hline']
    rw [hread] at hd ⊢
    exact h.exact hd

/-- libcurl forgets messages with the easy handle they are about. -/
theorem removeTransfer_inOrder (h : InOrder m) (hd : m.isDetached = true) (hs : m.stack = [])
    (n : AmxCurlHandle) : InOrder (m.removeTransfer n) := by
  unfold removeTransfer
  split
  · exact h
  · rename_i o _
    split
    · have hremoved := ({ m with curlMap := m.curlMap.erase (m.obj o).curl } :
        AmxCurlController).removeHandle_line o
      refine ⟨?_, fun hd' => absurd (hd.symm.trans hd') (by simp)⟩
      have hsub : List.Sublist (m.completed ++ ([] ++ (m.messages.filter fun msg =>
          msg.1 != (m.obj o).curl).map (·.2.1))) (m.completed ++ ([] ++ m.messages.map (·.2.1))) :=
        (List.Sublist.refl _).append ((List.Sublist.refl _).append (hremoved.2.map _))
      have hline := h.sublist
      unfold line at hline ⊢
      rw [hs] at hline
      rw [hremoved.1]
      show List.Sublist (m.completed ++ (m.stack.filterMap Frame.completes ++ _)) _
      rw [hs]
      exact hsub.trans hline
    · exact h

theorem teardown_inOrder {order : List AmxCurlHandle} (h : InOrder m)
    (hr : Transfers.Records m.transfers) (hs : m.stack = []) (hn : m.TearsDown order m') :
    InOrder m' := by
  cases hn with
  | visit actor n todo hph =>
      have hd : m.isDetached = true := by
        have hflags := hr.flags
        unfold Transfers.Flags at hflags
        rw [show m.transfers.phase = m.phase from rfl, hph] at hflags
        exact hflags.1
      have hvisit := removeTransfer_inOrder h hd hs n
      exact SameLine.inOrder (m := m.removeTransfer n) ⟨rfl, rfl, rfl, rfl⟩ rfl hvisit
  | drop actor n todo hph =>
      have hdrop := SameLine.dropEntry.inOrder (congrArg _ (Offstage.dropEntry (h := n)).stack) h
      exact SameLine.inOrder (m := m.dropEntry n) ⟨rfl, rfl, rfl, rfl⟩ rfl hdrop
  | shutdown hph =>
      have hshut := SameLine.shutdown.inOrder (congrArg _ Offstage.shutdown.stack) h
      exact SameLine.inOrder (m := m.shutdown) ⟨rfl, rfl, rfl, rfl⟩ rfl hshut
  | shutdownLast actor hph ha =>
      have hshut := SameLine.shutdown.inOrder (congrArg _ Offstage.shutdown.stack) h
      exact SameLine.inOrder (m := m.shutdown) ⟨rfl, rfl, rfl, rfl⟩ rfl hshut
  | globalCleanup hph =>
      have hcleanup := SameLine.inOrder (m := m) (.libcurl (c := .globalCleanup)) rfl h
      exact SameLine.inOrder (m := m.libcurl .globalCleanup) ⟨rfl, rfl, rfl, rfl⟩ rfl hcleanup
  | guard hph hd ho => exact ⟨h.sublist, fun hd' => absurd hd' (by simp)⟩
  | _ => exact SameLine.inOrder (m := m) ⟨rfl, rfl, rfl, rfl⟩ rfl h

/-- What is known of the state a step is taken in. -/
structure Regular (m : AmxCurlController) : Prop where
  records : Transfers.Records m.transfers
  counted : Transfers.Counted m.transfers
  nested : Nested m.stack
  staged : m.Staged

/-- **No step lets a completion overtake another.** -/
theorem next_inOrder {a : Action} (h : InOrder m) (hm : m.Regular) (hn : m.next a = some m') :
    InOrder m' := by
  -- a native, or another function that has returned
  have hoff : ∀ {m₁ : AmxCurlController}, Offstage m m₁ → SameLine m m₁ → InOrder m₁ :=
    fun ho hl => hl.inOrder (congrArg _ ho.stack) h
  cases next_fires hn with
  | easyInit a q reply hq hp hfree => exact hoff .createCurl .createCurl
  | setCallback n c reply codes hp hfree =>
      exact hoff .curlSetupAmxCallback (.minor .curlSetupAmxCallback)
  | setOption n d hp => exact hoff .curlSetOption (.minor .curlSetOption)
  | easyCleanup n hp => exact hoff .removeTask .removeTask
  | easyReset n hp => exact hoff .curlReset .curlReset
  | sweep order hs hph ho => exact hoff .sweepDeferredCleanups .sweepDeferredCleanups
  | easyPerform n found fun_ dataLen hp =>
      refine SameLine.amxCurlEasyPerform.inOrder ?_ h
      rcases m.amxCurlEasyPerform_called n found fun_ dataLen with heq | ⟨o, p, -, heq⟩ <;> rw [heq]
      rfl
  | callback o k hl he =>
      refine (SameLine.minor .callback).inOrder ?_ h
      rcases callback_called (m := m) (o := o) (k := k) with heq | ⟨c, q, n, heq⟩ <;> rw [heq]
      rfl
  | addReturn ok o p rest hs hok =>
      refine SameLine.performAdded.popped.inOrder ?_ h
      rw [(Offstage.performAdded (m := { m with stack := rest })).stack, hs]
      rfl
  | removeReturn f o p res rest hs hf =>
      obtain ⟨hsame, hmsg, hdone⟩ := performRemoved_line (f := f) hm.counted hm.records hs
      have hrest : ({ m with stack := rest }.performRemoved o p f).stack.filterMap Frame.completes
          = rest.filterMap Frame.completes := by
        rcases ({ m with stack := rest } : AmxCurlController).performRemoved_calls o p f with
          heq | ⟨b, q, data, heq⟩ <;> rw [heq]
        rfl
      have hline : ({ m with stack := rest }.performRemoved o p f).line = m.line := by
        unfold line
        rw [hsame.completed, hdone, hsame.messages, hmsg, hrest, hs, List.append_assoc]
        rfl
      refine ⟨?_, fun hd => ?_⟩
      · rw [hline, hsame.posted]
        exact h.sublist
      · rw [hline, hsame.posted]
        exact h.exact (hsame.isDetached ▸ hd)
  | postDone e p res ha hp =>
      have hline : ({ m with messages := m.messages ++ [(e, p, res)], posted := p :: m.posted } :
          AmxCurlController).line = m.line ++ [p] := by
        show m.completed ++ (_ ++ (m.messages ++ [(e, p, res)]).map (·.2.1)) = _
        rw [List.map_append, ← List.append_assoc, ← List.append_assoc]
        unfold line
        rw [List.append_assoc m.completed]
        rfl
      refine ⟨?_, fun hd => ?_⟩
      · rw [hline, List.reverse_cons]
        exact h.sublist.append (List.Sublist.refl _)
      · rw [hline, List.reverse_cons, h.exact hd]
  | socketActionReturn rest hs =>
      refine SameLine.inOrder (m := m) ⟨rfl, rfl, rfl, rfl⟩ ?_ h
      rw [hs]
      rfl
  | readMessage rest hs hmsg =>
      obtain rfl : rest = [] := (hs ▸ hm.nested).alone rfl
      have hlive := hm.staged (hs ▸ List.cons_ne_nil _ _)
      exact checkMultiInfo_inOrder h hm.counted hm.records hlive hs hmsg
  | checkMultiInfoReturn rest hs hmsg =>
      refine SameLine.inOrder (m := m) (.trans .libcurl ⟨rfl, rfl, rfl, rfl⟩) ?_ h
      rw [hs]
      rfl
  | completionReturn result a q f data rest hs =>
      refine SameLine.completionReturn.popped.inOrder ?_ h
      rw [hs]
      rfl
  | dataCallbackReturn result o c q expected rest hs =>
      refine (SameLine.minor .dataCallbackReturn).popped.inOrder ?_ h
      rw [(Offstage.dataCallbackReturn (m := { m with stack := rest })).stack, hs]
      rfl
  | poll hs hcm hph =>
      refine SameLine.inOrder (m := m) (.trans .libcurl ⟨rfl, rfl, rfl, rfl⟩) ?_ h
      rw [hs]
      rfl
  | onAmxxDetach hs hph =>
      exact SameLine.inOrder (m := m) (.trans .mf ⟨rfl, rfl, rfl, rfl⟩) rfl h
  | drained timedOut order hs hph hc ho =>
      refine ⟨?_, fun hd => absurd hd (by simp)⟩
      have hsaid : InOrder (if m.isAllTransfersCompleted then m else m.mf .printSrvConsole) := by
        split
        · exact h
        · exact SameLine.mf.inOrder rfl h
      exact hsaid.sublist
  | teardown order m' hs hn => exact teardown_inOrder h hm.records hs hn
  | _ => exact SameLine.inOrder (m := m) ⟨rfl, rfl, rfl, rfl⟩ rfl h

variable {C : AmxCurlController → Action → Prop} {tr : List Action}

theorem run_regular (hrun : machine.Run C tr m) : m.Regular where
  records := run_records hrun
  counted := Transfers.Counted.reachable (fun _ => id) (run_reachable hrun).1
  nested := run_nested hrun
  staged := (run_reachable hrun).2

theorem run_inOrder (hrun : machine.Run C tr m) : InOrder m :=
  hrun.invariant_of (I := Regular) (P := InOrder) (fun h => run_regular h)
    ⟨List.Sublist.refl _, fun _ => rfl⟩ fun _ _ _ hm h _ hn => next_inOrder h hm hn

theorem completed_count (m : AmxCurlController) (p : PerformId) :
    m.completed.count p = m.log.countP (Event.isCompletion p) := by
  unfold completed
  rw [List.count, List.countP_filterMap]
  refine List.countP_congr fun e _ => ?_
  cases e <;> simp [Event.completes, Event.isCompletion]

/-- The loop of `CheckMultiInfo` ends with nothing queued and nothing on the stack. -/
theorem checkMultiInfoReturn_rest (hs : Nested m.stack)
    (hn : m.next .checkMultiInfoReturn = some m') : m'.stack = [] ∧ m'.messages = [] := by
  cases next_fires hn with
  | checkMultiInfoReturn rest hstack hmsg =>
      rw [hstack] at hs
      exact ⟨hs.alone rfl, hmsg⟩

/--
**First done, first completed.**  The completions that have run are among the performs
libcurl has posted DONE for, each once and in that order.  Until the module is detached
none is skipped either: they are the first that were posted, and what is missing is
inside `curl_multi_remove_handle` or in the queue, in this order.  When the loop of
`CheckMultiInfo` ends, nothing is missing.
-/
theorem completions_in_order (hrun : machine.Run Machine.Free tr m) :
    m.completed.Sublist m.posted.reverse ∧ m.completed.Nodup ∧
    (m.isDetached = false → m.posted.reverse = m.completed ++
      (m.stack.filterMap Frame.completes ++ m.messages.map (·.2.1))) ∧
    (m.isDetached = false → tr.getLast? = some .checkMultiInfoReturn →
      m.completed = m.posted.reverse) := by
  have horder := run_inOrder hrun
  have hsub : m.completed.Sublist m.posted.reverse :=
    (List.sublist_append_left _ _).trans horder.sublist
  refine ⟨hsub, List.nodup_iff_count_le_one.mpr fun p => ?_, fun hd => (horder.exact hd).symm,
    fun hd hlast => ?_⟩
  · have hone := (run_regular hrun).counted.one p
    have hlog : m.transfers.log.countP (Event.isCompletion p) = m.log.countP (Event.isCompletion p) :=
      completion_filter m.log p
    have hcount : m.completed.count p = m.log.countP (Event.isCompletion p) := completed_count m p
    unfold Transfers.total at hone
    omega
  · obtain ⟨tr', rfl⟩ := List.getLast?_eq_some_iff.mp hlast
    obtain ⟨m₀, h₀, -, hn⟩ := hrun.last
    obtain ⟨hstack, hmsg⟩ := checkMultiInfoReturn_rest (run_nested h₀) hn
    have hline := horder.exact hd
    unfold line at hline
    rw [hstack, hmsg] at hline
    rw [← hline]
    exact (List.append_nil _).symm

/-- Two transfers are done, the second one first; its completion performs it again. -/
def overtaking : List Action :=
  [.load 7, .easyInit 7 (some 100), .easyInit 7 (some 101), .easyPerform 1 true 3 0, .addReturn true,
    .easyPerform 2 true 3 0, .addReturn true, .poll, .postDone 101 0, .postDone 100 28,
    .socketActionReturn, .readMessage, .removeReturn 5, .easyPerform 2 true 4 0, .addReturn true,
    .postDone 101 0, .pawnReturn 0, .readMessage, .removeReturn 5]

def overtaken : AmxCurlController := (machine.exec Machine.Free boot overtaking).get (by decide)

theorem completions_in_order_overtaken :
    overtaken.completed.Nodup ∧ overtaken.posted.reverse = overtaken.completed ++ [2] := by
  have hrun : machine.Run Machine.Free overtaking overtaken :=
    Machine.run_of_exec (Option.some_get _).symm
  obtain ⟨-, hnodup, hexact, -⟩ := completions_in_order hrun
  refine ⟨hnodup, (hexact (by decide)).trans ?_⟩
  have hwaiting : overtaken.stack.filterMap Frame.completes ++ overtaken.messages.map (·.2.1) = [2] := by
    decide
  rw [hwaiting]

end AmxCurlController

end AmxxCurl
