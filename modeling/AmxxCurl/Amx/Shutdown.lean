/-
The module can always be shut down, and loses nothing if it is given the time.

From any state it is in, callbacks that are under way can return and libcurl can be done
with the transfers; the loop of `CheckMultiInfo` then reads the messages and completes the
performs, the drain loop finds nothing in flight, and the teardown runs to its end.  None of
this takes a native, and the timeout of the drain loop is not needed.  So no order of
callbacks, failed performs, deferred cleanups or interrupts leaves a transfer behind that
blocks `OnAmxxDetach`, or a perform whose completion never comes.

Each stage is a measure.  `work` weighs what is on the stack and in the queue, such that
every return, every message and every run of an asio handler makes it lighter.
-/
import AmxxCurl.Amx.Changes
import AmxxCurl.Amx.Countdown
import AmxxCurl.Amx.Fates
import Mathlib.Data.Nat.Cast.Order.Ring

namespace AmxxCurl

open AmxCurlController
open Transfers (Op Move Records)

/-! ### The history grows -/

namespace Transfers

variable {N : Phase → Prop} {t t' : Transfers} {e : Event}

theorem Op.log_mono (hop : Op N t t') (he : e ∈ t.log) : e ∈ t'.log := by
  cases hop with
  | refuse => exact he
  | post => exact he
  | read e' p res rest =>
      unfold Transfers.read
      split <;> exact he
  | complete => exact List.mem_append_left _ (List.mem_append_left _ he)
  | _ => exact List.mem_append_left _ he

theorem Move.log_mono (hmove : Move t t') (he : e ∈ t.log) : e ∈ t'.log := by
  cases hmove with
  | visit actor n todo =>
      show e ∈ (t.visit n).log
      unfold Transfers.visit
      split
      · exact he
      · split
        · exact List.mem_append_left _ he
        · exact he
  | drop actor n todo =>
      show e ∈ (t.drop n).log
      unfold Transfers.drop
      split
      · exact he
      · exact List.mem_append_left _ he
  | shutdown => exact List.mem_append_left _ he
  | globalCleanup => exact List.mem_append_left _ he
  | _ => exact he

end Transfers

namespace AmxCurlController

variable {m m' : AmxCurlController} {tr tr' : List Action} {C D : AmxCurlController → Action → Prop}

theorem next_log_mono {a : Action} {e : Event} (hm : m.Regular) (hn : m.next a = some m')
    (he : e ∈ m.transfers.log) : e ∈ m'.transfers.log := by
  obtain ⟨hstep, -⟩ := next_refines (N := Phase.IsLive) hm.records.flags hm.staged
    (fun _ hp => hp.isLive hm.staged) (Or.inl rfl) hn
  rcases hstep with hops | ⟨hmove, -⟩
  · clear hn
    generalize m'.transfers = t' at hops
    induction hops with
    | refl => exact he
    | tail _ hop ih => exact hop.log_mono ih
  · exact hmove.log_mono he

theorem run_log_mono {e : Event} (h₁ : machine.Run C tr m) (h₂ : machine.Run C (tr ++ tr') m')
    (hmajor : e.isMajor = true) (he : e ∈ m.log) : e ∈ m'.log := by
  have hkept := h₁.kept_on (P := fun m => e ∈ m.transfers.log)
    (List.mem_filter.mpr ⟨he, hmajor⟩)
    (fun _ _ _ _ hr he _ hn => next_log_mono (run_regular hr) hn he) h₂
  exact (List.mem_filter.mp hkept).1

/-- What has been completed stays completed. -/
theorem run_completed_mono (h₁ : machine.Run C tr m) (h₂ : machine.Run C (tr ++ tr') m')
    {p : PerformId} (hp : p ∈ m.completed) : p ∈ m'.completed := by
  obtain ⟨args, hargs⟩ := mem_completed.mp hp
  exact mem_completed.mpr ⟨args, run_log_mono h₁ h₂ rfl hargs⟩

/-! ### What it takes -/

/-- Calls return, transfers end, asio handlers run, and the server goes down. -/
def Action.isOrderly : Action → Bool
  | .addReturn _ | .removeReturn _ | .postDone _ _ | .socketActionReturn => true
  | .readMessage | .checkMultiInfoReturn | .pawnReturn _ | .poll => true
  | .onAmxxDetach | .drained false _ | .exit | .teardown _ => true
  | _ => false

/-- What does not take the server down either. -/
def Action.isReturn : Action → Bool
  | .addReturn _ | .removeReturn _ | .postDone _ _ | .socketActionReturn => true
  | .readMessage | .checkMultiInfoReturn | .pawnReturn _ | .poll => true
  | _ => false

theorem Action.isReturn.isOrderly {a : Action} (ha : a.isReturn = true) : a.isOrderly = true := by
  cases a <;> first | rfl | exact absurd ha (by simp [Action.isReturn])

/-- libcurl is done with every transfer it has. -/
def AllPosted (m : AmxCurlController) : Prop := ∀ e p, m.attached.lookup e = some p → p ∈ m.posted

theorem AllPosted.of (h : AllPosted m)
    (hatt : ∀ e p, m'.attached.lookup e = some p → m.attached.lookup e = some p)
    (hposted : m'.posted = m.posted) : AllPosted m' := by
  intro e p he
  rw [hposted]
  exact h e p (hatt e p he)

/-- The transfers it is not done with. -/
def undone (m : AmxCurlController) : Finset CurlPtr :=
  m.attached.keys.filter fun e => (m.attached.lookup e).any fun p => decide (p ∉ m.posted)

theorem mem_undone {e : CurlPtr} :
    e ∈ m.undone ↔ ∃ p, m.attached.lookup e = some p ∧ p ∉ m.posted := by
  unfold undone
  rw [Finset.mem_filter]
  constructor
  · rintro ⟨-, hany⟩
    cases hp : m.attached.lookup e with
    | none =>
        rw [hp] at hany
        simp at hany
    | some p =>
        rw [hp] at hany
        exact ⟨p, rfl, of_decide_eq_true hany⟩
  · rintro ⟨p, hp, hnot⟩
    refine ⟨Finmap.mem_keys.mpr (Finmap.mem_of_lookup_eq_some hp), ?_⟩
    rw [hp]
    exact decide_eq_true hnot

/-- libcurl can be done with all of them. -/
theorem reaches_allPosted (hrun : machine.Run Machine.Free tr m) :
    machine.Reaches Machine.Free (·.isReturn = true)
      (fun s => s.phase = m.phase ∧ s.AllPosted) tr := by
  refine Machine.Reaches.of_measure (fun s => s.undone.card) ?_ hrun rfl
  intro tr' s hr hphase hnot
  unfold AllPosted at hnot
  push Not at hnot
  obtain ⟨e, p, he, hp⟩ := hnot
  have hn : machine.next s (.postDone e 0) =
      some { s with messages := s.messages ++ [(e, p, 0)], posted := p :: s.posted } := by
    simp only [machine, next, he]
    exact if_pos hp
  refine ⟨.postDone e 0, _, rfl, trivial, hn, hphase, Finset.card_lt_card ?_⟩
  rw [Finset.ssubset_iff_of_subset]
  · refine ⟨e, mem_undone.mpr ⟨p, he, hp⟩, fun hmem => ?_⟩
    obtain ⟨p', he', hp'⟩ := mem_undone.mp hmem
    obtain rfl := Option.some.inj (he.symm.trans he')
    exact hp' (List.mem_cons_self ..)
  · intro e' hmem
    obtain ⟨p', he', hp'⟩ := mem_undone.mp hmem
    exact mem_undone.mpr ⟨p', he', fun hold => hp' (List.mem_cons_of_mem _ hold)⟩

/-! ### Everything returns -/

/-- What a frame can still lead to. -/
def Frame.weight : Frame → Nat
  | .checkMultiInfo => 1
  | .socketAction => 2
  | .adding _ _ => 4
  | .dataCallback _ _ _ _ => 4
  | .completion _ _ _ _ => 5
  | .removing _ _ _ => 6

/-- What is on the stack and in the queue; with nothing on the stack, a handler has to run. -/
def load (s : List Frame) (queue : List (CurlPtr × PerformId × CurlCode)) : Nat :=
  8 * queue.length + (s.map Frame.weight).sum + if s = [] ∧ queue ≠ [] then 3 else 0

def work (m : AmxCurlController) : Nat := load m.stack m.messages

/-- A call that returns takes more off than a handler to come puts on. -/
theorem load_return {f : Frame} {rest : List Frame}
    {queue : List (CurlPtr × PerformId × CurlCode)} (hf : 4 ≤ f.weight) :
    load rest queue < load (f :: rest) queue := by
  have hbusy : ¬(f :: rest = [] ∧ queue ≠ []) := fun h => List.cons_ne_nil _ _ h.1
  unfold load
  rw [if_neg hbusy, List.map_cons, List.sum_cons]
  split <;> omega

/-- All calls can return, and where frames run or the drain loop does, all messages be read. -/
def AtEase (m : AmxCurlController) : Prop := m.stack = [] ∧ (m.phase.IsOpen → m.messages = [])

/-- A message that is read makes room for its completion. -/
theorem checkMultiInfo_unwinds (hall : m.AllPosted) (hs : m.stack ≠ []) (hmsg : m.messages ≠ []) :
    (m.checkMultiInfo.phase = m.phase ∧ m.checkMultiInfo.AllPosted) ∧
      m.checkMultiInfo.work < m.work := by
  obtain ⟨⟨e, p, res⟩, queue, hqueue⟩ := List.exists_cons_of_ne_nil hmsg
  have hbusy : ¬(m.stack = [] ∧ m.messages ≠ []) := fun h => hs h.1
  unfold checkMultiInfo
  rw [hqueue]
  dsimp only
  split
  · refine ⟨⟨rfl, hall⟩, ?_⟩
    show load m.stack queue < load m.stack m.messages
    unfold load
    rw [if_neg hbusy, if_neg (fun h => hs h.1), hqueue, List.length_cons]
    omega
  · rename_i o _
    refine ⟨⟨rfl, hall⟩, ?_⟩
    show load (.removing o p res :: m.stack) queue < load m.stack m.messages
    have hbusy' : ¬(Frame.removing o p res :: m.stack = [] ∧ queue ≠ []) :=
      fun h => List.cons_ne_nil _ _ h.1
    unfold load
    rw [if_neg hbusy, if_neg hbusy', hqueue, List.length_cons, List.map_cons, List.sum_cons]
    show 8 * queue.length + (6 + _) + 0 < _
    omega

/-- A completion is called in place of the call that has returned, or not at all. -/
theorem performRemoved_unwinds (hm : m.Regular) (hall : m.AllPosted) {o : ObjId} {p : PerformId}
    {res : CurlCode} {rest : List Frame} {g : ForwardId} (hs : m.stack = .removing o p res :: rest) :
    (({ m with stack := rest }.performRemoved o p g).phase = m.phase ∧
      ({ m with stack := rest }.performRemoved o p g).AllPosted) ∧
    ({ m with stack := rest }.performRemoved o p g).work < m.work := by
  obtain ⟨hsame, hmsg, -⟩ := performRemoved_line (f := g) hm.counted hm.records hs
  have hframe : ({ m with stack := rest }.performRemoved o p g).phase = m.phase ∧
      ({ m with stack := rest }.performRemoved o p g).attached =
        m.attached.erase (m.obj o).curl := by
    rcases ({ m with stack := rest } : AmxCurlController).performRemoved_cases o p g with
      ⟨-, heq⟩ | ⟨-, -, heq⟩ | ⟨q, -, -, heq⟩ <;> rw [heq] <;> exact ⟨rfl, rfl⟩
  refine ⟨⟨hframe.1, hall.of (fun e p' he => ?_) hsame.posted⟩, ?_⟩
  · rw [hframe.2] at he
    exact (Table.lookup_erase_eq_some.mp he).2
  · unfold work
    rw [hsame.messages, hmsg, hs]
    rcases ({ m with stack := rest } : AmxCurlController).performRemoved_calls o p g with
      heq | ⟨b, q, data, heq⟩ <;> rw [heq]
    · exact load_return (by simp [Frame.weight])
    · simp [load, Frame.weight]

/-- As long as that is not so, there is a step towards it. -/
theorem unwinds (hrun : machine.Run Machine.Free tr m) (hall : m.AllPosted) (hnot : ¬m.AtEase) :
    ∃ a m', a.isReturn = true ∧ m.next a = some m' ∧ (m'.phase = m.phase ∧ m'.AllPosted) ∧
      m'.work < m.work := by
  have hregular := run_regular hrun
  cases hs : m.stack with
  | nil =>
      have hopen : m.phase.IsOpen ∧ m.messages ≠ [] := by
        unfold AtEase at hnot
        by_contra hc
        exact hnot ⟨hs, fun ho => by_contra fun hmsg => hc ⟨ho, hmsg⟩⟩
      have hflags := hregular.records.flags
      have hcm : m.curlMulti = true := Transfers.Closing.open_multi hregular.records hopen.1
      have hn : m.next .poll = some { m.libcurl .socketAction with stack := [.socketAction] } := by
        simp only [next]
        exact if_pos ⟨hs, hcm, hopen.1⟩
      refine ⟨.poll, _, rfl, hn, ⟨rfl, hall⟩, ?_⟩
      show load [.socketAction] m.messages < load m.stack m.messages
      unfold load
      rw [hs, if_neg (fun h => List.cons_ne_nil _ _ h.1), if_pos ⟨rfl, hopen.2⟩]
      simp [Frame.weight]
  | cons f rest =>
      cases f with
      | socketAction =>
          have hn : m.next .socketActionReturn = some { m with stack := .checkMultiInfo :: rest } := by
            simp only [next, hs]
          refine ⟨_, _, rfl, hn, ⟨rfl, hall⟩, ?_⟩
          show load (.checkMultiInfo :: rest) m.messages < load m.stack m.messages
          rw [hs]
          simp [load, Frame.weight]
      | checkMultiInfo =>
          by_cases hmsg : m.messages = []
          · have hn : m.next .checkMultiInfoReturn = some { m.checkMultiInfo with stack := rest } := by
              simp only [next, hs]
              exact if_pos hmsg
            have hread : m.checkMultiInfo = m.libcurl .infoRead := by
              unfold checkMultiInfo
              rw [hmsg]
            rw [hread] at hn
            refine ⟨_, _, rfl, hn, ⟨rfl, hall⟩, ?_⟩
            show load rest m.messages < load m.stack m.messages
            rw [hs, hmsg]
            simp [load, Frame.weight]
          · have hn : m.next .readMessage = some m.checkMultiInfo := by
              simp only [next, hs]
              exact if_neg hmsg
            exact ⟨_, _, rfl, hn, checkMultiInfo_unwinds hall (hs ▸ List.cons_ne_nil _ _) hmsg⟩
      | adding o p =>
          have hn : m.next (.addReturn false) =
              some ({ m with stack := rest }.performAdded o p false) := by
            simp only [next, hs]
            exact if_pos (by simp)
          refine ⟨_, _, rfl, hn, ⟨rfl, hall⟩, ?_⟩
          show load rest m.messages < load m.stack m.messages
          rw [hs]
          exact load_return (le_refl 4)
      | removing o p res =>
          obtain ⟨g, hg⟩ := (run_bounded hrun).free
          have hn : m.next (.removeReturn g) =
              some ({ m with stack := rest }.performRemoved o p g) := by
            simp only [next, hs]
            exact if_pos hg
          exact ⟨_, _, rfl, hn, performRemoved_unwinds hregular hall hs⟩
      | completion b q g data =>
          have hn : m.next (.pawnReturn 0) =
              some ({ m with stack := rest }.completionReturn b q g data) := by
            simp only [next, hs]
          refine ⟨_, _, rfl, hn, ⟨rfl, hall⟩, ?_⟩
          show load rest m.messages < load m.stack m.messages
          rw [hs]
          exact load_return (Nat.le_succ 4)
      | dataCallback o c q n =>
          have hn : m.next (.pawnReturn 0) =
              some ({ m with stack := rest }.dataCallbackReturn o c n 0) := by
            simp only [next, hs]
          have hkeep : Keeps { m with stack := rest }
              ({ m with stack := rest }.dataCallbackReturn o c n 0) := .dataCallbackReturn
          refine ⟨_, _, rfl, hn, ⟨congrArg Transfers.phase hkeep, hall.of (fun e p he => ?_)
            (congrArg Transfers.posted hkeep)⟩, ?_⟩
          · rw [← show _ = m.attached from congrArg Transfers.attached hkeep]
            exact he
          · have hstack : ({ m with stack := rest }.dataCallbackReturn o c n 0).stack = rest :=
              Offstage.dataCallbackReturn.stack
            have hmsg : ({ m with stack := rest }.dataCallbackReturn o c n 0).messages = m.messages :=
              congrArg Transfers.messages hkeep
            unfold work
            rw [hstack, hmsg, hs]
            exact load_return (le_refl 4)

/-- Everything can return. -/
theorem reaches_atEase (hrun : machine.Run Machine.Free tr m) (hall : m.AllPosted) :
    machine.Reaches Machine.Free (·.isReturn = true)
      (fun s => (s.phase = m.phase ∧ s.AllPosted) ∧ s.AtEase) tr := by
  refine Machine.Reaches.of_measure work ?_ hrun ⟨rfl, hall⟩
  rintro tr' s hr ⟨hphase, hall⟩ hnot
  obtain ⟨a, s', ha, hn, ⟨hphase', hall'⟩, hlt⟩ := unwinds hr hall hnot
  exact ⟨a, s', ha, trivial, hn, ⟨hphase'.trans hphase, hall'⟩, hlt⟩

/-! ### Nothing is in flight -/

/-- libcurl is done with everything, and so are we. -/
theorem settled_at_ease (hrun : machine.Run C tr m) (ho : m.phase.IsOpen) (hall : m.AllPosted)
    (hease : m.AtEase) : (∀ p, .accepted p ∈ m.log → p ∈ m.completed) ∧
      m.isAllTransfersCompleted = true := by
  have hregular := run_regular hrun
  have honce := run_once hrun
  have hd : m.isDetached = false := Bool.eq_false_iff.mpr fun hd => not_open hregular.records hd ho
  have hdone : ∀ p ∈ m.posted, p ∈ m.completed := by
    intro p hp
    have hline := (run_inOrder hrun).exact hd
    unfold line at hline
    rw [hease.1, hease.2 ho] at hline
    have hmem : p ∈ m.completed ++ ([] ++ []) := hline.symm ▸ List.mem_reverse.mpr hp
    simpa using hmem
  have hnone : ∀ e p, m.attached.lookup e ≠ some p := fun e p he =>
    attached_not_completed honce he (hdone p (hall e p he))
  refine ⟨fun p hacc => ?_, decide_eq_true fun h _ o ho' => ?_⟩
  · rcases honce.kept hd (List.mem_filter.mpr ⟨hacc, rfl⟩) with hp | ⟨e, he⟩
    · exact hdone p hp
    · exact absurd he (hnone e p)
  · rw [← Bool.not_eq_true]
    intro hprog
    have hidle : m.transfers.tasks = [] := by
      show m.stack.filterMap Frame.task = []
      rw [hease.1]
      rfl
    have hatt := (hregular.records.agree ⟨h, ho'⟩).attached.mpr ⟨hprog, ?_,
      Transfers.not_dropped ho.isLive o⟩
    · obtain ⟨p, hp⟩ := Option.isSome_iff_exists.mp hatt
      exact hnone _ p hp
    · rintro ⟨p, hk⟩
      rw [hidle] at hk
      exact absurd hk List.not_mem_nil

/-- The drain loop begins where frames run, and ends by itself. -/
theorem reaches_late (hrun : machine.Run Machine.Free tr m) (hall : m.AllPosted)
    (hease : m.AtEase) : machine.Reaches Machine.Free (·.isOrderly = true)
      (fun s => s.stack = [] ∧ ¬s.phase.IsOpen ∧
        (m.phase.IsOpen → ∀ p, .accepted p ∈ m.log → p ∈ s.completed)) tr := by
  have hdrained : ∀ {tr : List Action} {s : AmxCurlController}, machine.Run Machine.Free tr s →
      s.phase = .draining → s.AllPosted → s.AtEase →
      machine.Reaches Machine.Free (·.isOrderly = true) (fun s' => s'.stack = [] ∧
        ¬s'.phase.IsOpen ∧ s'.completed = s.completed) tr := by
    intro tr s hr hph hall hease
    obtain ⟨-, hdone⟩ := settled_at_ease hr (Or.inr hph) hall hease
    have hn : machine.next s (.drained false s.amxCurl.keys.toList) = some { s with
        isDetached := true
        phase := .removing .onAmxxDetach s.amxCurl.keys.toList } := by
      simp only [machine, next]
      rw [if_pos ⟨hease.1, hph, Or.inl hdone, s.walks_toList⟩, if_pos hdone]
    exact .step hr rfl trivial hn
      (.here (.snoc hr trivial hn) ⟨hease.1, by simp [Phase.IsOpen], rfl⟩)
  by_cases ho : m.phase.IsOpen
  · obtain ⟨hacc, -⟩ := settled_at_ease hrun ho hall hease
    have hfinish : ∀ s : AmxCurlController, s.completed = m.completed →
        ∀ p, .accepted p ∈ m.log → p ∈ s.completed := by
      intro s hs p hp
      rw [hs]
      exact hacc p hp
    rcases ho with hph | hph
    · have hn : machine.next m .onAmxxDetach =
          some { (m.mf .unregModuleFrameFunc).tryInterruptAllTransfers with phase := .draining } := by
        simp only [machine, next]
        exact if_pos ⟨hease.1, hph⟩
      have hsame : SameLine m (m.mf .unregModuleFrameFunc) := .mf
      refine .step hrun rfl trivial hn ?_
      refine (hdrained (.snoc hrun trivial hn) rfl hall
        ⟨hease.1, fun _ => hease.2 (Or.inl hph)⟩).mono fun s hs => ?_
      exact ⟨hs.1, hs.2.1, fun _ => hfinish s (hs.2.2.trans hsame.completed)⟩
    · exact (hdrained hrun hph hall hease).mono fun s hs =>
        ⟨hs.1, hs.2.1, fun _ => hfinish s hs.2.2⟩
  · exact .here hrun ⟨hease.1, ho, fun h => absurd h ho⟩

/-- And then it all comes down. -/
theorem reaches_gone (hrun : machine.Run Machine.Free tr m) (hs : m.stack = [])
    (hlate : ¬m.phase.IsOpen) :
    machine.Reaches Machine.Free (·.isOrderly = true) (·.phase = .gone) tr := by
  refine (Machine.Reaches.of_measure (J := fun s => s.stack = [] ∧ ¬s.phase.IsOpen)
    (P := fun s => s.phase = .gone) stepsLeft ?_ hrun ⟨hs, hlate⟩).mono fun s h => h.2
  rintro tr' s hr ⟨hs, hlate⟩ hgone
  have hnext : ∀ {a s'}, a.isLast = true → a.isNative = false → machine.next s a = some s' →
      (s'.stack = [] ∧ ¬s'.phase.IsOpen) ∧ s'.stepsLeft < s.stepsLeft := by
    intro a s' hlast hnat hn
    have hcount := next_stepsLeft (run_regular hr).records hs hlate
      (fun h => absurd h (by simp [hnat])) hn
    rw [hlast, if_pos rfl] at hcount
    refine ⟨⟨?_, hcount.1⟩, by omega⟩
    cases next_fires hn with
    | exit => exact hs
    | teardown order s' hs hdown => exact (Offstage.teardown hdown).stack.trans hs
    | _ => exact absurd hlast (by simp [Action.isLast])
  by_cases hd : s.phase = .detached
  · have hn : machine.next s .exit = some { s with phase := .exiting } := by
      simp only [machine, next]
      exact if_pos ⟨hs, Or.inr hd⟩
    obtain ⟨hJ, hlt⟩ := hnext rfl rfl hn
    exact ⟨.exit, _, rfl, trivial, hn, hJ, hlt⟩
  · obtain ⟨s', hn⟩ := teardown_enabled hs hlate hd hgone
    obtain ⟨hJ, hlt⟩ := hnext (a := .teardown s.amxCurl.keys.toList) rfl rfl hn
    exact ⟨.teardown s.amxCurl.keys.toList, s', rfl, trivial, hn, hJ, hlt⟩

/-- A completion that has run has run once. -/
theorem completed_once (hm : m.Regular) {p : PerformId} (hp : p ∈ m.completed) :
    m.log.countP (Event.isCompletion p) = 1 := by
  have hpos : 0 < m.completed.count p := List.count_pos_iff.mpr hp
  have hone := hm.counted.one p
  have hlog : m.transfers.log.countP (Event.isCompletion p) = m.log.countP (Event.isCompletion p) :=
    completion_filter m.log p
  rw [completed_count] at hpos
  unfold Transfers.total at hone
  omega

/--
**The module can always be shut down, and no completion is lost on the way.**  Any run can
be continued by calls that return, transfers that end, handlers that run and the server
that goes down, with no native and without the timeout, until the module is gone.  If it
was not being taken down yet, every perform that libcurl had accepted has then been
completed, once.
-/
theorem shutdown_possible (hrun : machine.Run Machine.Free tr m) :
    ∃ tr' m', (∀ a ∈ tr', a.isOrderly = true) ∧ machine.Run Machine.Free (tr ++ tr') m' ∧
      m'.phase = .gone ∧
      (m.phase.IsOpen → ∀ p, .accepted p ∈ m.log → m'.log.countP (Event.isCompletion p) = 1) := by
  have hsettle := (reaches_allPosted hrun).weaken fun a ha => Action.isReturn.isOrderly ha
  refine hsettle.trans fun t₁ m₁ hr₁ ⟨hph₁, hall₁⟩ => ?_
  have hease := (reaches_atEase hr₁ hall₁).weaken fun a ha => Action.isReturn.isOrderly ha
  refine hease.trans fun t₂ m₂ hr₂ ⟨⟨hph₂, hall₂⟩, hease₂⟩ => ?_
  refine (reaches_late hr₂ hall₂ hease₂).trans fun t₃ m₃ hr₃ ⟨hs₃, hlate₃, hdone₃⟩ => ?_
  refine (reaches_gone hr₃ hs₃ hlate₃).trans fun t₄ m₄ hr₄ hgone => .here hr₄ ⟨hgone, ?_⟩
  intro ho p hp
  refine completed_once (run_regular hr₄) (run_completed_mono hr₃ hr₄ ?_)
  have hopen : m₂.phase.IsOpen := by
    rw [hph₂, hph₁]
    exact ho
  exact hdone₃ hopen p (run_log_mono hr₁ hr₂ rfl (run_log_mono hrun hr₁ rfl hp))

/-- The Pawn code of two callbacks is on the stack, one inside the other. -/
theorem shutdown_possible_nested : ∃ tr' m', (∀ a ∈ tr', a.isOrderly = true) ∧
    machine.Run Machine.Free (nesting ++ tr') m' ∧ m'.phase = .gone ∧
    m'.log.countP (Event.isCompletion 0) = 1 := by
  have hrun : machine.Run Machine.Free nesting nestedTwice :=
    Machine.run_of_exec (Option.some_get _).symm
  obtain ⟨tr', m', hA, hr, hgone, hdone⟩ := shutdown_possible hrun
  exact ⟨tr', m', hA, hr, hgone, hdone (Or.inl (by decide)) 0 (by decide)⟩

end AmxCurlController

end AmxxCurl
